import SqlSession.Text.Search

/-! # Labels in ASCII

A label of a domain with letters beyond ASCII is written as its ASCII letters, a hyphen, and digits in
base 36 that say where the other letters go: letter by letter in ascending order, the distance from the
place before.  A distance is a number with digits of varying weight, which adapt to the distances seen.
-/

namespace SqlSession.Domain.Punycode

/-- The digit of a value below 36: letters first, then figures. -/
def digit (n : Nat) : Char := if n < 26 then Char.ofNat (97 + n) else Char.ofNat (22 + n)

/-- The threshold of the digit at a position; a digit below it ends its number. -/
def threshold (bias position : Nat) : Nat :=
  if position ≤ bias then 1 else if bias + 26 ≤ position then 26 else position - bias

theorem threshold_pos (bias position : Nat) : 0 < threshold bias position := by
  unfold threshold
  split
  · omega
  · split <;> omega

/-- The digits of a number, from a position on. -/
def digits (bias position n : Nat) : List Char :=
  let t := threshold bias position
  if n < t then [digit n]
  else digit (t + (n - t) % (36 - t)) :: digits bias (position + 36) ((n - t) / (36 - t))
termination_by n
decreasing_by
  have := threshold_pos bias position
  exact Nat.lt_of_le_of_lt (Nat.div_le_self _ _) (by omega)

/-- A distance divided until it is small, and the weight that the divisions add. -/
def reduce (distance weight : Nat) : Nat × Nat :=
  if 455 < distance then reduce (distance / 35) (weight + 36) else (distance, weight)
termination_by distance
decreasing_by exact Nat.div_lt_self (by omega) (by omega)

/-- The bias after a distance; `seen` counts the letters placed so far. -/
def adapt (distance seen : Nat) (first : Bool) : Nat :=
  let scaled := if first then distance / 700 else distance / 2
  let (small, weight) := reduce (scaled + scaled / seen) 0
  weight + 36 * small / (small + 38)

/-- An encoding under way. -/
structure Progress where
  /-- Distance since the last letter that was placed. -/
  distance : Nat
  bias : Nat
  /-- Letters placed, those in ASCII included. -/
  placed : Nat
  first : Bool
  output : List Char

/-- Walks over one letter of the label while the letter `target` is placed. -/
def Progress.pass (target : Nat) (p : Progress) (c : Char) : Progress :=
  if c.toNat < target then { p with distance := p.distance + 1 }
  else if c.toNat = target then
    { distance := 0, bias := adapt p.distance (p.placed + 1) p.first, placed := p.placed + 1
      first := false, output := p.output ++ digits p.bias 36 p.distance }
  else p

/-- Places every occurrence of each letter in turn; `next` is the least letter not yet looked for. -/
def place (label : List Char) (next : Nat) (p : Progress) : List Nat → List Char
  | [] => p.output
  | target :: later =>
    let start := { p with distance := p.distance + (target - next) * (p.placed + 1) }
    let done := label.foldl (Progress.pass target) start
    place label (target + 1) { done with distance := done.distance + 1 } later

/-- Whether a letter is in ASCII. -/
def isAscii (c : Char) : Bool := c.toNat < 128

/-- The letters beyond ASCII in a label, each once, in ascending order. -/
def targets (label : List Char) : List Nat :=
  (((label.filter fun c => !isAscii c).map Char.toNat).mergeSort (· ≤ ·)).eraseDups

/-- What a label in ASCII with other letters begins with. -/
def lead : List Char := ['x', 'n', '-', '-']

/-- A label in ASCII. -/
def encode (label : List Char) : List Char :=
  if label.all isAscii then label
  else
    let ascii := label.filter isAscii
    let start := if ascii.isEmpty then [] else ascii ++ ['-']
    lead ++ place label 128 ⟨0, 72, ascii.length, true, start⟩ (targets label)

/-! ### Reading -/

/-- The value of a digit of either case. -/
def digitValue? (c : Char) : Option Nat :=
  let n := c.toLower.toNat
  if 97 ≤ n ∧ n ≤ 122 then some (n - 97) else if 48 ≤ n ∧ n ≤ 57 then some (n - 22) else none

/-- The largest distance that is read. -/
def distanceLimit : Nat := Nat.pow 2 32 - 1

/-- What a number is read into: the distance so far, and the weight and position of its next digit. -/
structure Unfinished where
  distance : Nat
  weight : Nat
  position : Nat

/-- A decoding under way. -/
structure Reading where
  /-- The letters placed so far. -/
  label : List Char
  /-- The letter last placed, or the one before the least that may be. -/
  letter : Nat
  /-- The place at which the next distance starts. -/
  place : Nat
  bias : Nat
  first : Bool

namespace Reading

/-- Places the letter that a distance leads to, if there is such a character. -/
def put (r : Reading) (distance : Nat) : Option Reading :=
  let count := r.label.length + 1
  let reached := r.place + distance
  let letter := r.letter + reached / count
  let place := reached % count
  if letter.isValidChar ∧ reached ≤ distanceLimit then
    some ⟨r.label.take place ++ Char.ofNat letter :: r.label.drop place, letter, place + 1,
      adapt distance count r.first, false⟩
  else none

/-- Reads the rest of a label; `number` is the number under way, if there is one. -/
def finish (r : Reading) (number : Option Unfinished) : List Char → Option (List Char)
  | [] => if number.isSome then none else some r.label
  | c :: rest => do
    let n := number.getD ⟨0, 1, 36⟩
    let d ← digitValue? c
    let distance := n.distance + d * n.weight
    let t := threshold r.bias n.position
    if distanceLimit < distance then none
    else if d < t then (← r.put distance).finish none rest
    else r.finish (some ⟨distance, n.weight * (36 - t), n.position + 36⟩) rest

end Reading

/-- The label that ASCII letters and digits stand for, without the lead. -/
def decode? (code : List Char) : Option (List Char) :=
  let (ascii, digits) := match Text.cutAtLast '-' code with
    | some (a :: ascii, digits) => (a :: ascii, digits)
    | _ => ([], code)
  Reading.finish ⟨ascii, 128, 0, 72, true⟩ none digits

end SqlSession.Domain.Punycode
