import SqlSession.Json.Basic
import SqlSession.Number.Shortest
import SqlSession.Text.Hex

/-! # Writing JSON

The compact form without any white space, and the indented form with two spaces a level.  A double is
written by its shortest decimal, and as `null` when it is not a number or infinite.
-/

namespace SqlSession.Json

open Number

/-- Doubles are written positionally from one hundred-thousandth up to ten to the sixteenth. -/
def floatLayout : DecimalLayout := ⟨-5, 16⟩

/-- The text of a double. -/
def floatText (x : Double) : List Char :=
  match x.view with
  | .finite negative c e => (if negative then ['-'] else []) ++ floatLayout.write c e
  | _ => "null".toList

/-- One character of a string: quotes, backslashes and controls are escaped. -/
def writtenChar (c : Char) : List Char :=
  if c = '"' then ['\\', '"']
  else if c = '\\' then ['\\', '\\']
  else if 0x20 ≤ c.toNat then [c]
  else if c = '\x08' then ['\\', 'b']
  else if c = '\x0c' then ['\\', 'f']
  else if c = '\n' then ['\\', 'n']
  else if c = '\r' then ['\\', 'r']
  else if c = '\t' then ['\\', 't']
  else '\\' :: 'u' :: Text.hexFixed 4 c.toNat

/-- A string in quotes. -/
def stringText (s : String) : List Char := '"' :: s.toList.flatMap writtenChar ++ ['"']

mutual

/-- A value without white space. -/
def compactText : Json → List Char
  | .null => "null".toList
  | .bool b => (if b then "true" else "false").toList
  | .int i => (toString i).toList
  | .float x => floatText x
  | .str s => stringText s
  | .arr items => '[' :: compactItems items ++ [']']
  | .obj members => '\x7b' :: compactMembers members ++ ['\x7d']

def compactItems : List Json → List Char
  | [] => []
  | [j] => compactText j
  | j :: r => compactText j ++ ',' :: compactItems r

def compactMembers : List (String × Json) → List Char
  | [] => []
  | [(n, j)] => stringText n ++ ':' :: compactText j
  | (n, j) :: r => stringText n ++ ':' :: compactText j ++ ',' :: compactMembers r

end

/-- A value as text without white space. -/
def compact (j : Json) : String := String.ofList (compactText j)

/-- A line break and the indentation of a level. -/
def newLine (level : Nat) : List Char := '\n' :: List.replicate (2 * level) ' '

mutual

/-- A value at an indentation level, one item or member a line. -/
def prettyText (level : Nat) : Json → List Char
  | .null => "null".toList
  | .bool b => (if b then "true" else "false").toList
  | .int i => (toString i).toList
  | .float x => floatText x
  | .str s => stringText s
  | .arr [] => ['[', ']']
  | .arr (j :: r) => '[' :: prettyItems (level + 1) (j :: r) ++ newLine level ++ [']']
  | .obj [] => ['\x7b', '\x7d']
  | .obj (m :: r) => '\x7b' :: prettyMembers (level + 1) (m :: r) ++ newLine level ++ ['\x7d']

def prettyItems (level : Nat) : List Json → List Char
  | [] => []
  | [j] => newLine level ++ prettyText level j
  | j :: r => newLine level ++ prettyText level j ++ ',' :: prettyItems level r

def prettyMembers (level : Nat) : List (String × Json) → List Char
  | [] => []
  | [(n, j)] => newLine level ++ stringText n ++ ':' :: ' ' :: prettyText level j
  | (n, j) :: r =>
    newLine level ++ stringText n ++ ':' :: ' ' :: prettyText level j ++ ',' ::
      prettyMembers level r

end

/-- A value as indented text. -/
def pretty (j : Json) : String := String.ofList (prettyText 0 j)

end SqlSession.Json
