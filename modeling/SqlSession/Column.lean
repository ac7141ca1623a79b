import SqlSession.Failure
import SqlSession.Text.Blank
import SqlSession.Value

/-! # Columns and their coercions

A driver's choice of type depends on the server and on the protocol in use, so that the same column
may arrive as an integer, as text or as octets.  The six getters of a column coerce its value to the
type that a caller asks for, or fail with `Failure.invalidType`; a null is `none` of every type.
-/

namespace SqlSession

/-- A named value. -/
structure Column where
  name : String
  value : Value
deriving DecidableEq, Repr

namespace Column

open Number

/-- The failure of a coercion to a type. -/
def mismatch (c : Column) (expected found : String) : Failure := .invalidType c.name expected found

/-- Octets read as UTF-8 text. -/
def textOf (c : Column) (b : Bytes) (expected : String) : Except Failure String :=
  match Text.ofUtf8? b with
  | some s => .ok s
  | none => .error (c.mismatch expected "non-utf8 bytes")

/-- Text read by a reader, without the white space around it. -/
def readText (c : Column) (read : List Char → Option α) (s expected : String) : Except Failure α :=
  match read (Text.trim s.toList) with
  | some a => .ok a
  | none => .error (c.mismatch expected ("string " ++ Text.quoted s))

/-- A numeric coercion: by kind, with text and octets read alike. -/
def numeric (c : Column) (expected : String) (read : List Char → Option α)
    (ofInt : Int64 → Except Failure α) (ofUInt : UInt64 → Except Failure α)
    (ofFloat : Double → Except Failure α) : Except Failure (Option α) :=
  match c.value with
  | .null => .ok none
  | .int i => (ofInt i).map some
  | .uint n => (ofUInt n).map some
  | .float x => (ofFloat x).map some
  | .text s => (c.readText read s expected).map some
  | .bytes b => do return some (← c.readText read (← c.textOf b expected) expected)
  | .bool _ => .error (c.mismatch expected c.value.kind)

/-- An optional result, or the failure of the coercion. -/
def orMismatch (c : Column) (expected found : String) : Option α → Except Failure α
  | some a => .ok a
  | none => .error (c.mismatch expected found)

/-- A double with nothing after its point, from `low` up to `high`. -/
def integral? (low high x : Double) : Option Double :=
  if x.fraction?.any (·.same .zero) && low.le x && x.lt high then some x else none

/-- A signed integer: any number that denotes one in range, and decimal text. -/
def int64 (c : Column) : Except Failure (Option Int64) :=
  c.numeric "int64" int64? .ok
    (fun n => c.orMismatch "int64" "uint64 out of range" (toInt64? n.toNat))
    (fun x => c.orMismatch "int64" "non-integral float64"
      ((integral? (.ofInt Int64.minValue.toInt) (.ofInt Int64.maxValue.toInt) x).map Double.toInt64))

/-- An unsigned integer: any number that denotes one in range, and decimal text. -/
def uint64 (c : Column) : Except Failure (Option UInt64) :=
  c.numeric "uint64" uint64?
    (fun i => c.orMismatch "uint64" "negative int64" (toUInt64? i.toInt)) .ok
    (fun x => c.orMismatch "uint64" "negative or non-integral float64"
      ((integral? .zero (.ofInt (UInt64.size - 1 : Nat)) x).map Double.toUInt64))

/-- A double: any number, rounded to the nearest one, and decimal text. -/
def float64 (c : Column) : Except Failure (Option Double) :=
  c.numeric "float64" Double.ofText? (fun i => .ok (Double.ofInt i.toInt))
    (fun n => .ok (Double.ofInt n.toNat)) .ok

/-- Text, also as octets. -/
def string (c : Column) : Except Failure (Option String) :=
  match c.value with
  | .null => .ok none
  | .text s => .ok (some s)
  | .bytes b => (c.textOf b "string").map some
  | v => .error (c.mismatch "string" v.kind)

/-- A truth value as it is; of anything else the integer that it coerces to, zero being false. -/
def bool (c : Column) : Except Failure (Option Bool) :=
  match c.value with
  | .null => .ok none
  | .bool b => .ok (some b)
  | v =>
    match c.int64 with
    | .ok i => .ok (i.map (· != 0))
    | .error _ => .error (c.mismatch "bool" v.kind)

/-- Octets, also of text. -/
def buffer (c : Column) : Except Failure (Option Bytes) :=
  match c.value with
  | .null => .ok none
  | .bytes b => .ok (some b)
  | .text s => .ok (some (Text.utf8 s))
  | v => .error (c.mismatch "bytes" v.kind)

/-- Equality of columns: one name and equal values. -/
def same (c d : Column) : Bool := c.name == d.name && c.value.same d.value

end Column

end SqlSession
