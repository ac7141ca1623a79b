import SqlSession.Number.Double

/-! # JSON values

Numbers are exact integers where the text has neither point nor exponent and a 64-bit word holds
them, and doubles otherwise.  Objects keep their members in the order of the text, repeated names
included; `Json.canonical` is the form in which names are sorted and the last of a repeated name
stands.
-/

namespace SqlSession

/-- A JSON value. -/
inductive Json where
  | null
  | bool (b : Bool)
  | int (i : Int)
  | float (x : Double)
  | str (s : String)
  | arr (items : List Json)
  | obj (members : List (String × Json))
deriving Repr, Inhabited

namespace Json

/-- A member put into its place among sorted members, replacing one of the same name. -/
def putMember (name : String) (value : Json) : List (String × Json) → List (String × Json)
  | [] => [(name, value)]
  | (n, v) :: r =>
    if name < n then (name, value) :: (n, v) :: r
    else if name = n then (name, value) :: r
    else (n, v) :: putMember name value r

mutual

/-- The value with the names of every object sorted, the last of a repeated name kept. -/
def canonical : Json → Json
  | .arr items => .arr (canonicalItems items)
  | .obj members => .obj (canonicalMembers [] members)
  | .null => .null
  | .bool b => .bool b
  | .int i => .int i
  | .float x => .float x
  | .str s => .str s

def canonicalItems : List Json → List Json
  | [] => []
  | j :: r => canonical j :: canonicalItems r

/-- The members put one after the other among those already sorted. -/
def canonicalMembers (sorted : List (String × Json)) : List (String × Json) → List (String × Json)
  | [] => sorted
  | (n, v) :: r => canonicalMembers (putMember n (canonical v) sorted) r

end

/-- The last member of a name. -/
def member? (name : String) : List (String × Json) → Option Json
  | [] => none
  | (n, v) :: r => match member? name r with
    | some w => some w
    | none => if n = name then some v else none

end Json

end SqlSession
