/-! # Searching and replacing

Occurrences of one text in another, counted from the left without overlap, and the cuts at a
character or at a text.
-/

namespace SqlSession.Text

/-- Whether `needle` stands somewhere in the text. -/
def hasInfix (needle : List Char) : List Char → Bool
  | [] => needle.isEmpty
  | c :: r => needle.isPrefixOf (c :: r) || hasInfix needle r

/-- Whether the text `needle` stands somewhere in `s`. -/
def mentions (s needle : String) : Bool := hasInfix needle.toList s.toList

/-- Occurrences of `needle` that start after the first `skip` characters, none overlapping the one
before it.  For a non-empty needle only. -/
def occurrencesFrom (needle : List Char) : Nat → List Char → Nat
  | _, [] => 0
  | skip + 1, _ :: r => occurrencesFrom needle skip r
  | 0, c :: r =>
    if needle.isPrefixOf (c :: r) then occurrencesFrom needle (needle.length - 1) r + 1
    else occurrencesFrom needle 0 r

/-- Number of non-overlapping occurrences of a non-empty `needle`, counted from the left. -/
def occurrences (needle s : List Char) : Nat := occurrencesFrom needle 0 s

/-- The text with the first occurrence of a non-empty `needle` replaced. -/
def replaceFirst (needle replacement : List Char) : List Char → List Char
  | [] => []
  | c :: r =>
    if needle.isPrefixOf (c :: r) then replacement ++ (c :: r).drop needle.length
    else c :: replaceFirst needle replacement r

/-- The parts before and after the first character `c`, if there is one. -/
def cutAt (c : Char) : List Char → Option (List Char × List Char)
  | [] => none
  | d :: r => if d = c then some ([], r) else (cutAt c r).map fun (a, b) => (d :: a, b)

/-- The parts before and after the last character `c`, if there is one. -/
def cutAtLast (c : Char) (s : List Char) : Option (List Char × List Char) :=
  (cutAt c s.reverse).map fun (a, b) => (b.reverse, a.reverse)

/-- The parts before and after the first occurrence of a text, if there is one. -/
def cutAtText (needle : List Char) : List Char → Option (List Char × List Char)
  | [] => none
  | c :: r =>
    if needle.isPrefixOf (c :: r) then some ([], (c :: r).drop needle.length)
    else (cutAtText needle r).map fun (a, b) => (c :: a, b)

/-- The pieces of a text between the characters `c`; one more than there are such characters. -/
def pieces (c : Char) : List Char → List (List Char)
  | [] => [[]]
  | d :: r =>
    match pieces c r with
    | [] => [[d]]
    | first :: later => if d = c then [] :: first :: later else (d :: first) :: later

/-- What follows `lead` at the start of a text, if the text starts with it. -/
def afterPrefix : List Char → List Char → Option (List Char)
  | [], s => some s
  | _ :: _, [] => none
  | p :: lead, c :: r => if p = c then afterPrefix lead r else none

end SqlSession.Text
