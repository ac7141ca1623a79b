import SqlSession.Json.Printer
import SqlSession.Param
import SqlSession.Sqlite.Numeral
import SqlSession.Text.Search

/-! # Storage classes and affinities of SQLite

Every stored value has a storage class of its own.  The declared type of a column is only a preference:
on the way in, numbers may become text and text may become numbers, if nothing is lost, and what cannot
be converted is stored as it is.
-/

namespace SqlSession.Sqlite

/-- A stored value, by its storage class.  Text need not be well-formed. -/
inductive Stored where
  | null
  | integer (i : Int64)
  | real (x : Double)
  | text (b : Bytes)
  | blob (b : Bytes)
deriving DecidableEq, Repr

namespace Stored

/-- The name of the storage class. -/
def typeName : Stored → String
  | null => "null"
  | integer _ => "integer"
  | real _ => "real"
  | text _ => "text"
  | blob _ => "blob"

/-- A double as a stored value; what is not a number is a null. -/
def ofDouble (x : Double) : Stored := if x.isNan then null else real x

/-- The stored value that a parameter is bound as. -/
def ofParam : Param → Stored
  | .null => null
  | .bool b => integer (if b then 1 else 0)
  | .int i => integer i
  | .float x => ofDouble x
  | .string s => text (Text.utf8 s)
  | .bytes b => blob b
  | .json j => text (Text.utf8 j.compact)

end Stored

/-- The preference of a column. -/
inductive Affinity where
  | integer
  | text
  | blob
  | real
  | numeric
deriving DecidableEq, Repr

namespace Affinity

/-- The affinity of a declared type, by the words in it. -/
def ofDeclared (declared : String) : Affinity :=
  let lower := Text.lowerAscii declared
  let has (w : String) : Bool := Text.mentions lower w
  if has "int" then integer
  else if has "char" || has "clob" || has "text" then text
  else if has "blob" || lower.isEmpty then blob
  else if has "real" || has "floa" || has "doub" then real
  else numeric

end Affinity

/-! ### Numbers from text -/

/-- The largest magnitude of a double that is taken for an integer. -/
def realLimit : Int := 9223372036854774784

/-- A double as an integer, if it is one and neither end of the range of integers. -/
def exactInteger? (x : Double) : Option Int64 :=
  match x.toInt? with
  | some i => if -realLimit ≤ i ∧ i ≤ realLimit then some (Int64.ofInt i) else none
  | none => none

/-- A double in a column that prefers integers. -/
def preferInteger (x : Double) : Stored :=
  match exactInteger? x with
  | some i => .integer i
  | none => .real x

/-- The number that a text spells from end to end, if it does. -/
def numberOf? (s : List Char) : Option Stored :=
  let trimmed := strip s
  match Number.int64? trimmed with
  | some i => some (.integer i)
  | none => (decimal? trimmed).map fun (negative, d) => preferInteger (realOf negative d)

/-! ### Storing -/

/-- What a column of an affinity stores of a value. -/
def Affinity.store (a : Affinity) (v : Stored) : Stored :=
  let asNumber : Stored :=
    match v with
    | .text b =>
      match Text.ofUtf8? b with
      | some s => (numberOf? s.toList).getD v
      | none => v
    | .real x => preferInteger x
    | v => v
  match a with
  | .blob => v
  | .text =>
    match v with
    | .integer i => .text (Text.utf8 (toString i.toInt))
    | .real x => .text (Text.utf8 (realText x))
    | v => v
  | .integer => asNumber
  | .numeric => asNumber
  | .real =>
    match asNumber with
    | .integer i => .real (Double.ofInt i.toInt)
    | v => v

end SqlSession.Sqlite
