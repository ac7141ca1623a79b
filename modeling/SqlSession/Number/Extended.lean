import SqlSession.Number.Double

/-! # Working precision of 64 bits

Magnitudes with a significand of 64 bits and an exponent without bounds.  The product of two of them
and every power of ten is rounded once, to the nearest such magnitude, ties to an even significand.
Larger powers of ten are reached in steps of a hundred, ten and one decades, each step a product of
its own, so that the outcome is determined to the last bit.
-/

namespace SqlSession.Number

/-- The magnitude `significand * 2 ^ scale`. -/
structure Extended where
  significand : Nat
  scale : Int
deriving DecidableEq, Repr

namespace Extended

/-- Bits of a significand after the leading one. -/
def fractionBits : Nat := 63

/-- The magnitude nearest to a quotient. -/
def nearest (num den : Nat) : Extended :=
  if num = 0 then ⟨0, 0⟩
  else
    let grid := binade num den - (fractionBits : Int)
    ⟨gridSteps grid num den, grid⟩

/-- A natural number below `2 ^ 64`, which needs no rounding. -/
def ofNat (n : Nat) : Extended := ⟨n, 0⟩

/-- A power of ten. -/
def tenTo (e : Int) : Extended := nearest (Nat.pow 10 e.toNat) (Nat.pow 10 (-e).toNat)

/-- Numerator and denominator. -/
def quotient (x : Extended) : Nat × Nat := Double.quotient x.significand x.scale

/-- The product, rounded once. -/
def mul (x y : Extended) : Extended :=
  let (num, den) := Double.quotient (x.significand * y.significand) (x.scale + y.scale)
  nearest num den

/-- Whether a magnitude is at most another. -/
def le (x y : Extended) : Bool :=
  let (a, b) := x.quotient
  let (c, d) := y.quotient
  a * d ≤ c * b

/-- Whether a magnitude is below another. -/
def lt (x y : Extended) : Bool := !y.le x

/-- The digits before the point. -/
def floor (x : Extended) : Nat :=
  let (num, den) := x.quotient
  num / den

/-! ### Shifting the decimal point -/

/-- The steps, in decades, of a shift by `e` decades: its hundreds, then its tens, then its ones. -/
def decades (e : Int) : List Int :=
  let n := e.natAbs
  List.replicate (n / 100) (e.sign * 100) ++ List.replicate (n % 100 / 10) (e.sign * 10) ++
    List.replicate (n % 10) e.sign

/-- Multiplication by `10 ^ e`, step by step. -/
def shift (x : Extended) (e : Int) : Extended := (decades e).foldl (fun y k => y.mul (tenTo k)) x

/-- Steps that a finite double is away from any window, with room. -/
def stepLimit : Nat := 16

/-- A magnitude shifted by `step` decades as long as a condition holds, and the power of ten that
undoes the shift. -/
def shiftWhile (more : Extended → Bool) (step : Int) : Nat → Extended × Int → Extended × Int
  | 0, p => p
  | fuel + 1, (x, e) =>
    if more x then shiftWhile more step fuel (x.mul (tenTo step), e - step) else (x, e)

/-- A magnitude lowered by so many decades at a time while it reaches `10 ^ bound`. -/
def lower (bound step : Int) : Extended × Int → Extended × Int :=
  shiftWhile (tenTo bound).le (-step) stepLimit

/-- A magnitude raised by so many decades at a time while it is below `10 ^ bound`. -/
def raise (bound step : Int) : Extended × Int → Extended × Int :=
  shiftWhile (·.lt (tenTo bound)) step stepLimit

/-- A positive magnitude shifted to eighteen or nineteen digits before the point, and the power of
ten that undoes the shift. -/
def intoWindow (x : Extended) : Extended × Int :=
  if (tenTo 19).le x then lower 19 1 (lower 29 10 (lower 119 100 (x, 0)))
  else raise 17 1 (raise 7 10 (raise (-97) 100 (x, 0)))

/-- A positive magnitude in so many significant digits, at most sixteen.  The digits of the window
decide, a half going up. -/
def significant (digits : Nat) (x : Extended) : Decimal :=
  let (y, e) := x.intoWindow
  let n := y.floor
  let dropped := (Nat.toDigits 10 n).length - digits
  ⟨(n / Nat.pow 10 (dropped - 1) + 5) / 10, e + dropped⟩

/-! ### Doubles -/

/-- The magnitude of a finite double, which needs no rounding. -/
def ofDouble (coefficient : Nat) (scale : Int) : Extended := ⟨coefficient, scale⟩

/-- The magnitude bits of the nearest double; all that exceeds the largest one is infinite. -/
def toDouble (x : Extended) : Nat :=
  let f := BinaryFormat.double
  let largest := ofDouble (f.coefficient (f.infinity - 1)) (f.scale (f.infinity - 1))
  if x.le largest then
    let (num, den) := x.quotient
    f.nearest num den
  else f.infinity

end Extended

end SqlSession.Number
