import SqlSession.Json.Basic
import SqlSession.Text.Base64

/-! # Column values

A value as a driver reports it, before any caller has asked for a type.
-/

namespace SqlSession

/-- The value of a column in one row. -/
inductive Value where
  | null
  | int (i : Int64)
  | uint (n : UInt64)
  | float (x : Double)
  | text (s : String)
  | bool (b : Bool)
  | bytes (b : Bytes)
deriving DecidableEq, Repr, Inhabited

namespace Value

/-- The name of the kind of a value, as failures show it. -/
def kind : Value → String
  | null => "null"
  | int _ => "int64"
  | uint _ => "uint64"
  | float _ => "float64"
  | text _ => "string"
  | bool _ => "bool"
  | bytes _ => "bytes"

def isNull : Value → Bool
  | null => true
  | _ => false

/-- Null, the empty text, and the empty octet sequence. -/
def isEmpty : Value → Bool
  | null => true
  | text s => s.isEmpty
  | bytes b => b.isEmpty
  | _ => false

/-- Equality of values: of one kind, and equal in it; doubles are equal as the numbers they denote. -/
def same : Value → Value → Bool
  | float x, float y => x.same y
  | v, w => v = w

/-- A value in JSON: octets as base64 text. -/
def toJson : Value → Json
  | null => .null
  | int i => .int i.toInt
  | uint n => .int n.toNat
  | float x => .float x
  | text s => .str s
  | bool b => .bool b
  | bytes b => .str (Text.base64 b)

end Value

end SqlSession
