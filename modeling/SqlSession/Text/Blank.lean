/-! # White space

The characters with the Unicode property White_Space, the three ways of trimming them, and the words
that they separate.  Trimming is on lists of characters, the form in which every scanner of this
library reads text.
-/

namespace SqlSession.Text

/-- The characters with the Unicode property White_Space. -/
def isBlank (c : Char) : Bool :=
  let n := c.toNat
  (9 ≤ n && n ≤ 13) || n == 0x20 || n == 0x85 || n == 0xA0 || n == 0x1680 ||
    (0x2000 ≤ n && n ≤ 0x200A) || n == 0x2028 || n == 0x2029 || n == 0x202F || n == 0x205F ||
    n == 0x3000

/-- A text without the white space it starts with. -/
def trimStart (s : List Char) : List Char := s.dropWhile isBlank

/-- A text without the white space it ends in. -/
def trimEnd : List Char → List Char
  | [] => []
  | c :: r =>
    match trimEnd r with
    | [] => if isBlank c then [] else [c]
    | kept => c :: kept

/-- A text without the white space around it. -/
def trim (s : List Char) : List Char := trimEnd (trimStart s)

/-- The word that touches the start of a text, possibly empty, and the words after it. -/
def leadingWord : List Char → List Char × List (List Char)
  | [] => ([], [])
  | c :: r =>
    let (word, later) := leadingWord r
    if isBlank c then ([], if word.isEmpty then later else word :: later) else (c :: word, later)

/-- The non-empty runs of characters between white space, in order. -/
def words (s : List Char) : List (List Char) :=
  let (word, later) := leadingWord s
  if word.isEmpty then later else word :: later

end SqlSession.Text
