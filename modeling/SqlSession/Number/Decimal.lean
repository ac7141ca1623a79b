import SqlSession.Number.Binary
import SqlSession.Number.Numeral

/-! # Decimal notation

Decimal fractions with an optional exponent, as texts denote them, and their rounding to a binary
format.
-/

namespace SqlSession.Number

/-- The magnitude `coefficient * 10 ^ exponent`. -/
structure Decimal where
  coefficient : Nat
  exponent : Int
deriving DecidableEq, Repr

namespace Decimal

/-- Powers of ten outside of this range round to zero or to infinity in every supported format. -/
def reach : Int := 400

/-- The magnitude bits of the value of a format nearest to a decimal. -/
def nearest (f : BinaryFormat) (d : Decimal) : Nat :=
  if d.coefficient = 0 then 0
  else
    let order := d.exponent + ((Nat.toDigits 10 d.coefficient).length : Int)
    if order < -reach then 0
    else if reach < order then f.infinity
    else if 0 ≤ d.exponent then f.nearest (d.coefficient * Nat.pow 10 d.exponent.toNat) 1
    else f.nearest d.coefficient (Nat.pow 10 (-d.exponent).toNat)

/-- The exponent part of a decimal: nothing, or a letter `e` and an integer. -/
def exponent? : List Char → Option Int
  | [] => some 0
  | c :: r => if c = 'e' ∨ c = 'E' then int? r else none

/-- Digits with at most one point among or around them, then an optional exponent. -/
def parse? (s : List Char) : Option Decimal :=
  let whole := s.takeWhile Char.isDigit
  let (part, rest) : List Char × List Char :=
    match s.dropWhile Char.isDigit with
    | '.' :: r => (r.takeWhile Char.isDigit, r.dropWhile Char.isDigit)
    | r => ([], r)
  if whole.isEmpty && part.isEmpty then none
  else
    (exponent? rest).map fun e =>
      ⟨Nat.ofDigitChars 10 (whole ++ part) 0, e - (part.length : Int)⟩

end Decimal

end SqlSession.Number
