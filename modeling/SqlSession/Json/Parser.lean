import SqlSession.Json.Lexer

/-! # Reading JSON

A value is read from its tokens with a stack of the arrays and objects that are open; the height of
the stack is the nesting depth, and a text nested deeper than a limit is refused.
-/

namespace SqlSession.Json

/-- An array or object that has been opened: what it holds so far, last first, and for an object the
name of the member being read. -/
inductive Open where
  | arr (items : List Json)
  | obj (members : List (String × Json)) (name : String)

mutual

/-- Reads a value in the given open containers. -/
def readValue (limit : Nat) (stack : List Open) : List Token → Option Json
  | [] => none
  | .scalar j :: r => afterValue limit stack j r
  | .arrOpen :: .arrClose :: r =>
    if stack.length < limit then afterValue limit stack (.arr []) r else none
  | .arrOpen :: r => if stack.length < limit then readValue limit (.arr [] :: stack) r else none
  | .objOpen :: .objClose :: r =>
    if stack.length < limit then afterValue limit stack (.obj []) r else none
  | .objOpen :: .scalar (.str name) :: .colon :: r =>
    if stack.length < limit then readValue limit (.obj [] name :: stack) r else none
  | _ :: _ => none

/-- Puts a value where it belongs and reads on. -/
def afterValue (limit : Nat) (stack : List Open) (value : Json) : List Token → Option Json
  | [] => if stack.isEmpty then some value else none
  | .comma :: .scalar (.str name) :: .colon :: r =>
    match stack with
    | .obj members key :: below => readValue limit (.obj ((key, value) :: members) name :: below) r
    | _ => none
  | .comma :: r =>
    match stack with
    | .arr items :: below => readValue limit (.arr (value :: items) :: below) r
    | _ => none
  | .arrClose :: r =>
    match stack with
    | .arr items :: below => afterValue limit below (.arr (value :: items).reverse) r
    | _ => none
  | .objClose :: r =>
    match stack with
    | .obj members key :: below => afterValue limit below (.obj ((key, value) :: members).reverse) r
    | _ => none
  | _ :: _ => none

end

/-- The nesting depth up to which a text is read. -/
def depthLimit : Nat := 127

/-- The value of a text nested at most `limit` deep. -/
def parseWithin (limit : Nat) (s : String) : Option Json := tokens s.toList >>= readValue limit []

/-- The value of a JSON text. -/
def parse (s : String) : Option Json := parseWithin depthLimit s

end SqlSession.Json
