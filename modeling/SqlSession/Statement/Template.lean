import SqlSession.Failure
import SqlSession.Param
import SqlSession.Statement.Lock
import SqlSession.Text.Search

/-! # Statement templates

A statement under construction: a value template with `?` markers, the ways in which the template
becomes a statement, and the groups of parameters that fill the markers.  Rendering repeats the value
template once for each group, separated by commas.
-/

namespace SqlSession.Statement

/-- The parameter marker. -/
def marker : Char := '?'

/-- What ends a statement between two literals when nothing else is given. -/
def defaultEnd : String := ";"

/-- How the value template becomes a statement. -/
inductive Composition where
  /-- The template is the statement, and takes one group. -/
  | plain
  /-- The repeated template takes the place of a token in a base statement. -/
  | placeholder (base token : String)
  /-- The repeated template stands between two literals. -/
  | between (start stop : String)
deriving DecidableEq, Repr

/-- Why a template or a group of parameters is refused. -/
inductive Fault where
  | emptyToken
  | tokenCount (token : String) (found : Nat)
  | noMarker (template : String)
  | secondGroup
  | groupSize (expected actual : Nat)
  | noGroups
deriving DecidableEq, Repr

namespace Fault

/-- The wording of a fault. -/
def message : Fault → String
  | emptyToken => "placeholder token cannot be empty"
  | tokenCount token found =>
    s!"placeholder '{token}' must appear exactly once in base statement, found {found}"
  | noMarker template => s!"value template '{template}' contains no '?' parameter marker"
  | secondGroup => "plain query accepts a single parameter group"
  | groupSize expected actual => s!"expected {expected} parameters per group, got {actual}"
  | noGroups => "query has no parameters; add a parameter group before rendering"

/-- A fault as a failure. -/
def toFailure (f : Fault) : Failure := .invalidQuery f.message

end Fault

/-- A statement under construction, and the parameter groups added so far. -/
structure Template where
  composition : Composition
  /-- The text repeated for each group. -/
  value : String
  groups : List (List Param)
  forUpdate : Bool
deriving Repr

namespace Template

/-- Markers in a text. -/
def markersIn (s : String) : Nat := s.toList.count marker

/-- A template without groups, if its value template has a marker. -/
def withComposition (c : Composition) (value : String) : Except Fault Template :=
  if markersIn value = 0 then .error (.noMarker value) else .ok ⟨c, value, [], false⟩

/-- A statement used as it is. -/
def plain (statement : String) : Except Fault Template := withComposition .plain statement

/-- A base statement in which a token stands exactly once. -/
def placeholder (base token value : String) : Except Fault Template :=
  if token.isEmpty then .error .emptyToken
  else
    let found := Text.occurrences token.toList base.toList
    if found ≠ 1 then .error (.tokenCount token found)
    else withComposition (.placeholder base token) value

/-- Values between two literals. -/
def between (start stop value : String) : Except Fault Template :=
  withComposition (.between start (if stop.isEmpty then defaultEnd else stop)) value

/-- Markers that each group fills. -/
def markers (t : Template) : Nat := markersIn t.value

def groupCount (t : Template) : Nat := t.groups.length

/-- The parameters of all groups in order. -/
def params (t : Template) : List Param := t.groups.flatten

/-- The template with or without a lock clause. -/
def setForUpdate (t : Template) (b : Bool) : Template := { t with forUpdate := b }

/-- One more group, which must have a parameter for each marker. -/
def add (t : Template) (group : List Param) : Except Fault Template :=
  if t.composition = .plain ∧ 0 < t.groupCount then .error .secondGroup
  else if group.length ≠ t.markers then .error (.groupSize t.markers group.length)
  else .ok { t with groups := t.groups ++ [group] }

/-- The value template once for each group, with commas between. -/
def repeated (t : Template) : String :=
  ",".intercalate (List.replicate t.groupCount t.value)

/-- The statement without a lock clause. -/
def composed (t : Template) : String :=
  match t.composition with
  | .plain => t.value
  | .placeholder base token =>
    String.ofList (Text.replaceFirst token.toList t.repeated.toList base.toList)
  | .between start stop => start ++ t.repeated ++ stop

/-- The statement, once there is a group. -/
def statement (t : Template) : Except Fault String :=
  if t.groupCount = 0 then .error .noGroups
  else .ok (if t.forUpdate then locked t.composed else t.composed)

/-- The statement and its parameters. -/
def build (t : Template) : Except Fault (String × List Param) :=
  t.statement.map fun sql => (sql, t.params)

end Template

end SqlSession.Statement
