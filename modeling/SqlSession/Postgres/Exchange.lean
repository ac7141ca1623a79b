import SqlSession.DriverFault
import SqlSession.Postgres.Decode
import SqlSession.Postgres.Encode
import SqlSession.RowSet

/-! # Statements sent to a PostgreSQL server

A statement without parameters goes out as a simple query, and its values come back in text form.  One
with parameters is prepared, bound and executed, and its values come back in binary form.
-/

namespace SqlSession.Postgres

/-- A column of a reply. -/
structure Field where
  name : String
  oid : Oid
deriving DecidableEq, Repr

/-- An error that the server reports. -/
structure ServerError where
  code : String
  message : String
deriving DecidableEq, Repr

namespace ServerError

def toFailure (e : ServerError) : Failure := DriverFault.toFailure (.database e.message (some e.code))

end ServerError

/-- A server's reply to a statement. -/
structure Reply where
  fields : List Field
  /-- The values of each row; a null has no octets at all. -/
  rows : List (List (Option Bytes))
  /-- The command tag, whose last word is the number of affected rows. -/
  tag : String
  /-- The statement fails when it is executed. -/
  error : Option ServerError
  /-- The statement fails when it is prepared. -/
  prepareError : Option ServerError
deriving Repr

/-- What a client sends. -/
inductive Message where
  | simple (sql : String)
  | prepare (sql : String) (types : List Oid)
  | bind (values : List (Option Bytes))
deriving DecidableEq, Repr

/-- The failure of a statement, if it fails. -/
def Reply.failure? (r : Reply) (params : List Param) : Option Failure :=
  if params.isEmpty then r.error.map ServerError.toFailure
  else (r.prepareError.or r.error).map ServerError.toFailure

/-- The messages of a statement that is prepared first.  One that fails when it is prepared is not
bound. -/
def preparedMessages (sql : String) (params : List Param) (r : Reply) : List Message :=
  .prepare sql (params.map oidOf) ::
    if r.prepareError.isSome then [] else [.bind (params.map encode?)]

/-- The messages of a statement. -/
def messages (sql : String) (params : List Param) (r : Reply) : List Message :=
  if params.isEmpty then [.simple sql] else preparedMessages sql params r

/-- The value of a column. -/
def value (format : Format) (f : Field) : Option Bytes → Except Failure Value
  | none => .ok .null
  | some content =>
    match Cell.decode? ⟨f.oid, format, content⟩ with
    | some v => .ok v
    | none =>
      .error (.invalidType f.name "decodable value" ("undecodable " ++ Oid.typeName f.oid))

/-- The values of a row, up to the first that cannot be read. -/
def rowValues (format : Format) (fields : List Field) (row : List (Option Bytes)) :
    Except Failure (List Value) :=
  (fields.zip row).mapM fun (f, content) => value format f content

/-- The rows of a reply. -/
def Reply.rowSet (r : Reply) (format : Format) : Except Failure RowSet :=
  RowSet.ofDriverRows (r.rows.map fun row =>
    ⟨r.fields.map Field.name, rowValues format r.fields row⟩)

/-- A signed numeral off the start of a text, as far as its digits go. -/
def leadingCount? (s : List Char) : Option Nat :=
  let unsigned := match s with
    | '+' :: r => r
    | s => s
  let digits := unsigned.takeWhile Char.isDigit
  if digits.isEmpty then none
  else
    let n := Nat.ofDigitChars 10 digits 0
    if Number.fitsUnsigned 64 n then some n else none

/-- The affected rows of a command tag: its last word, if that is a number. -/
def affectedOf (tag : String) : Nat :=
  match Text.cutAtLast ' ' tag.toList with
  | some (_, last) => (leadingCount? last).getD 0
  | none => 0

/-- Fetches the rows of a statement. -/
def fetch (params : List Param) (r : Reply) : Except Failure RowSet :=
  match r.failure? params with
  | some f => .error f
  | none => r.rowSet (if params.isEmpty then .text else .binary)

/-- Executes a statement and gives its affected rows. -/
def execute (params : List Param) (r : Reply) : Except Failure Nat :=
  match r.failure? params with
  | some f => .error f
  | none => .ok (affectedOf r.tag)

/-- The text of a column, which must be there and be of a text type. -/
def textOf (f : Field) : Option Bytes → Except String String
  | none => .error DriverFault.unexpectedNull
  | some content =>
    if f.oid ∈ Oid.texts then (Text.ofUtf8 content).mapError Text.Utf8Fault.message
    else .error (DriverFault.notText "TEXT" (Oid.typeName f.oid))

/-- The text in the first column of the first row, of a statement that was prepared. -/
def scalarText (r : Reply) : Except Failure String :=
  match r.prepareError.or r.error with
  | some e => .error e.toFailure
  | none => (DriverFault.firstText textOf r.fields r.rows).mapError DriverFault.toFailure

end SqlSession.Postgres
