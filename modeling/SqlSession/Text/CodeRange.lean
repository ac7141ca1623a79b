/-! # Ranges of code points

Classes of characters are sorted lists of ranges of code points, both ends of a range included.
-/

namespace SqlSession.Text

/-- Whether a sorted list of ranges covers a number. -/
def covered (n : Nat) : List (Nat × Nat) → Bool
  | [] => false
  | (low, high) :: r => if n < low then false else n ≤ high || covered n r

end SqlSession.Text
