/-! # Letter case

ASCII folding of texts, and the lower-casing that a search for ASCII words needs: besides the ASCII
letters exactly two characters have ASCII letters in their lower-case form.
-/

namespace SqlSession.Text

/-- The ASCII letters in lower case, everything else as it is. -/
def lowerAscii (s : String) : String := String.ofList (s.toList.map Char.toLower)

/-- The ASCII letters of a text in upper case, everything else as it is. -/
def upperAscii (s : List Char) : List Char := s.map Char.toUpper

/-- Lower case as far as a search for ASCII words can tell: the Kelvin sign folds to a `k`, and a
capital I with a dot to an `i` and a combining dot. -/
def lowerChar (c : Char) : List Char :=
  if c.toNat == 0x212A then ['k']
  else if c.toNat == 0x130 then ['i', Char.ofNat 0x307]
  else [c.toLower]

/-- A text in lower case, for searches of ASCII words in it. -/
def lower (s : String) : List Char := s.toList.flatMap lowerChar

/-- Equality of two texts up to the case of ASCII letters. -/
def sameAscii (s t : String) : Bool := lowerAscii s == lowerAscii t

end SqlSession.Text
