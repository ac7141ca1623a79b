import SqlSession.Text.CodeRange
import SqlSession.Text.Hex
import SqlSession.Text.Search

/-! # Tables of code points as text

Long tables of characters are kept as lines of words, with code points in base sixteen.  In a class of
characters a word is a code point or a range: `5f`, `41-5a`.  In a table of images a word is a first
code point and the images of it and of those that follow: `132:69+6a,69+6a`, where an image of several
characters has a plus sign between them.
-/

namespace SqlSession.Text

/-- The number that a word spells. -/
def codePoint (s : List Char) : Nat := (hexToNat? s).getD 0

/-- The words of a table. -/
def tableWords (lines : List String) : List (List Char) := lines.flatMap fun l => pieces ' ' l.toList

/-- The range that a word spells. -/
def rangeOf (word : List Char) : Nat × Nat :=
  match cutAt '-' word with
  | some (low, high) => (codePoint low, codePoint high)
  | none => (codePoint word, codePoint word)

/-- The ranges of a class of characters. -/
def rangesOf (lines : List String) : List (Nat × Nat) := (tableWords lines).map rangeOf

/-- Images of consecutive characters. -/
structure ImageRun where
  first : Nat
  images : List (List Char)
deriving Repr

namespace ImageRun

/-- The images that a word spells. -/
def ofWord (word : List Char) : ImageRun :=
  let imageOf (s : List Char) : List Char := (pieces '+' s).map fun p => Char.ofNat (codePoint p)
  match cutAt ':' word with
  | some (first, images) => ⟨codePoint first, (pieces ',' images).map imageOf⟩
  | none => ⟨0, []⟩

/-- The runs of a table of images. -/
def ofLines (lines : List String) : List ImageRun := (tableWords lines).map ofWord

/-- The image of a character, if a run holds one. -/
def image? (c : Char) : List ImageRun → Option (List Char)
  | [] => none
  | r :: later => if r.first ≤ c.toNat then r.images[c.toNat - r.first]? <|> image? c later else none

/-- The character with an image, if a run holds one. -/
def source? (image : List Char) (runs : List ImageRun) : Option Char :=
  runs.findSome? fun r => (r.images.idxOf? image).map fun i => Char.ofNat (r.first + i)

end ImageRun

end SqlSession.Text
