import SqlSession.Number.Numeral
import SqlSession.Text.Fold
import SqlSession.Value

/-! # Statement parameters

A parameter is bound to a marker of a statement.  Parameters come from a caller's values (`Scalar`),
from the command line, where the text of a literal decides its type, and from JSON.
-/

namespace SqlSession

/-- A parameter bound to a marker. -/
inductive Param where
  | null
  | bool (b : Bool)
  | int (i : Int64)
  | float (x : Double)
  | string (s : String)
  | bytes (b : Bytes)
  | json (j : Json)
deriving Repr, Inhabited

namespace Param

open Number

def isNull : Param → Bool
  | null => true
  | _ => false

/-- The name of the type of a parameter. -/
def typeName : Param → String
  | null => "null"
  | bool _ => "bool"
  | int _ => "int"
  | float _ => "float"
  | string _ => "string"
  | bytes _ => "bytes"
  | json _ => "json"

/-- The parameter that a literal denotes: a null in any case, an integer, a double, a truth value, and
text otherwise. -/
def ofLiteral (s : String) : Param :=
  if Text.sameAscii s "null" then null
  else match int64? s.toList with
    | some i => int i
    | none => match Double.ofText? s.toList with
      | some x => float x
      | none =>
        if s = "true" then bool true else if s = "false" then bool false else string s

/-- A parameter in JSON: octets as base64 text. -/
def toJson : Param → Json
  | null => .null
  | bool b => .bool b
  | int i => .int i.toInt
  | float x => .float x
  | string s => .str s
  | bytes b => .str (Text.base64 b)
  | json j => j

/-- The forms that a JSON value is tried as, before it is left as it is. -/
inductive Form where
  | null
  | bool
  | int
  | float
  | string
  | bytes
deriving DecidableEq, Repr

namespace Form

/-- The parameter that a JSON value is in a form, if it has that form.  An integer is also a number, and
octets are written as base64 text. -/
def read? : Form → Json → Option Param
  | null, .null => some .null
  | bool, .bool b => some (.bool b)
  | int, .int i => (toInt64? i).map .int
  | float, .int i => some (.float (Double.ofInt i))
  | float, .float x => some (.float x)
  | string, .str s => some (.string s)
  | bytes, .str s => (Text.ofBase64? s).map .bytes
  | _, _ => none

/-- The forms in the order in which they are tried. -/
def all : List Form := [null, bool, int, float, string, bytes]

end Form

/-- The parameter of a JSON value: the first form that it has counts, and a value that has none of them
stays JSON. -/
def ofJson (j : Json) : Param := (Form.all.findSome? (·.read? j)).getD (json j.canonical)

end Param

/-- A value of a caller's program. -/
inductive Scalar where
  | int32 (i : Int32)
  | int64 (i : Int64)
  | uint32 (n : UInt32)
  | uint64 (n : UInt64)
  | double (x : Double)
  | bool (b : Bool)
  | text (s : String)
  | bytes (b : Bytes)
  | json (j : Json)

namespace Scalar

/-- A caller's value as a column value; there is no form for the narrow unsigned and for JSON. -/
def toValue? : Scalar → Option Value
  | int32 i => some (.int i.toInt64)
  | int64 i => some (.int i)
  | uint32 _ => none
  | uint64 n => some (.uint n)
  | double x => some (.float x)
  | bool b => some (.bool b)
  | text s => some (.text s)
  | bytes b => some (.bytes b)
  | json _ => none

/-- A caller's value as a parameter; there is no form for the wide unsigned. -/
def toParam? : Scalar → Option Param
  | int32 i => some (.int i.toInt64)
  | int64 i => some (.int i)
  | uint32 n => some (.int n.toUInt64.toInt64)
  | uint64 _ => none
  | double x => some (.float x)
  | bool b => some (.bool b)
  | text s => some (.string s)
  | bytes b => some (.bytes b)
  | json j => some (.json j)

/-- A caller's optional value as a column value, absence being a null.  The scalar given for an
absent value stands for its type. -/
def optionalValue? (type : Scalar) (present : Bool) : Option Value :=
  (type.toValue?).map fun v => if present then v else .null

/-- A caller's optional value as a parameter, absence being a null. -/
def optionalParam? (type : Scalar) (present : Bool) : Option Param :=
  (type.toParam?).map fun p => if present then p else .null

end Scalar

end SqlSession
