import SqlSession.DriverFault
import SqlSession.Mysql.Decode
import SqlSession.Mysql.Encode
import SqlSession.RowSet

/-! # Statements sent to a MySQL server

A statement without parameters goes out as a simple query, and its values come back in text form.  One
with parameters is prepared and executed, and its values come back in binary form.
-/

namespace SqlSession.Mysql

/-- A column of a reply. -/
structure Field where
  name : String
  type : TypeInfo
deriving DecidableEq, Repr

/-- An error that the server reports. -/
structure ServerError where
  number : Nat
  code : String
  message : String
deriving DecidableEq, Repr

namespace ServerError

def toFailure (e : ServerError) : Failure := DriverFault.toFailure (.database e.message (some e.code))

end ServerError

/-- A server's reply to a statement. -/
structure Reply where
  fields : List Field
  /-- The values of each row; a null has no octets at all. -/
  rows : List (List (Option Bytes))
  /-- The affected rows of a statement without columns. -/
  affected : Nat
  /-- The statement fails when it is executed. -/
  error : Option ServerError
  /-- The statement fails when it is prepared. -/
  prepareError : Option ServerError
deriving Repr

/-- What a client sends. -/
inductive Message where
  | simple (sql : String)
  | prepare (sql : String)
  | execute (nulls types values : Bytes)
deriving DecidableEq, Repr

/-- The failure of a statement, if it fails. -/
def Reply.failure? (r : Reply) (params : List Param) : Option Failure :=
  if params.isEmpty then r.error.map ServerError.toFailure
  else (r.prepareError.or r.error).map ServerError.toFailure

/-- The messages of a statement that is prepared first.  One that fails when it is prepared is not
executed, and without parameters the execution carries nothing. -/
def preparedMessages (sql : String) (params : List Param) (r : Reply) : List Message :=
  .prepare sql ::
    if r.prepareError.isSome ∨ params.isEmpty then []
    else [.execute (nullBitmap params) (params.flatMap typeOf) (params.flatMap valueOf)]

/-- The messages of a statement. -/
def messages (sql : String) (params : List Param) (r : Reply) : List Message :=
  if params.isEmpty then [.simple sql] else preparedMessages sql params r

/-- The value of a column. -/
def value (format : Format) (f : Field) : Option Bytes → Except Failure Value
  | none => .ok .null
  | some content =>
    let cell : Cell := ⟨f.type, format, content⟩
    if cell.isNull then .ok .null
    else
      match cell.decode? with
      | some v => .ok v
      | none => .error (.invalidType f.name "decodable value" ("undecodable " ++ f.type.name))

/-- The values of a row, up to the first that cannot be read. -/
def rowValues (format : Format) (fields : List Field) (row : List (Option Bytes)) :
    Except Failure (List Value) :=
  (fields.zip row).mapM fun (f, content) => value format f content

/-- The rows of a reply. -/
def Reply.rowSet (r : Reply) (format : Format) : Except Failure RowSet :=
  RowSet.ofDriverRows (r.rows.map fun row =>
    ⟨r.fields.map Field.name, rowValues format r.fields row⟩)

/-- Fetches the rows of a statement. -/
def fetch (params : List Param) (r : Reply) : Except Failure RowSet :=
  match r.failure? params with
  | some f => .error f
  | none => r.rowSet (if params.isEmpty then .text else .binary)

/-- Executes a statement and gives its affected rows; one with columns affects none. -/
def execute (params : List Param) (r : Reply) : Except Failure Nat :=
  match r.failure? params with
  | some f => .error f
  | none => .ok (if r.fields.isEmpty then r.affected else 0)

/-- The text of a column, which must be there and be of a text type. -/
def textOf (f : Field) : Option Bytes → Except String String
  | none => .error DriverFault.unexpectedNull
  | some content =>
    if f.type.isString && !f.type.binary then
      (Text.ofUtf8 content).mapError Text.Utf8Fault.message
    else .error (DriverFault.notText "VARCHAR" f.type.name)

/-- The text in the first column of the first row, of a statement that was prepared. -/
def scalarText (r : Reply) : Except Failure String :=
  match r.prepareError.or r.error with
  | some e => .error e.toFailure
  | none => (DriverFault.firstText textOf r.fields r.rows).mapError DriverFault.toFailure

end SqlSession.Mysql
