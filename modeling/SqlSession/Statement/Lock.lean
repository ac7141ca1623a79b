import SqlSession.Text.Blank
import SqlSession.Text.Fold

/-! # Lock clauses

Adding `FOR UPDATE` to a statement.  A statement that already ends in the clause, with or without one
of the two waiting options, stays as it is; a semicolon at the end stays at the end.
-/

namespace SqlSession.Statement

/-- Whether the last words of a text are a lock clause; `reversed` holds the words in upper case,
last first. -/
def endsInLockWords (reversed : List String) : Bool :=
  match reversed with
  | "LOCKED" :: "SKIP" :: "UPDATE" :: "FOR" :: _ => true
  | "NOWAIT" :: "UPDATE" :: "FOR" :: _ => true
  | "UPDATE" :: "FOR" :: _ => true
  | _ => false

/-- Whether a text ends in a lock clause. -/
def endsInLockClause (body : List Char) : Bool :=
  endsInLockWords ((Text.words body).map fun w => String.ofList (Text.upperAscii w)).reverse

/-- The text before the final semicolon of a trimmed text, if there is one. -/
def beforeSemicolon? (s : List Char) : Option (List Char) :=
  if s.getLast? = some ';' then some s.dropLast else none

/-- A statement without the white space and the semicolon at its end, and whether there was one. -/
def bodyOf (s : List Char) : List Char × Bool :=
  let trimmed := Text.trimEnd s
  match beforeSemicolon? trimmed with
  | some body => (Text.trimEnd body, true)
  | none => (trimmed, false)

/-- The characters of the clause that is added. -/
def lockClause : List Char := " FOR UPDATE".toList

/-- A statement as characters, with a lock clause at its end. -/
def lockedText (s : List Char) : List Char :=
  let (body, terminated) := bodyOf s
  (if endsInLockClause body then body else body ++ lockClause) ++ if terminated then [';'] else []

/-- A statement with a lock clause at its end. -/
def locked (s : String) : String := String.ofList (lockedText s.toList)

end SqlSession.Statement
