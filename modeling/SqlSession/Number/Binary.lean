/-! # Binary floating point

A floating-point format is a number of fraction bits and a number of exponent bits.  Read as a
number, the magnitude bits of a format count the representable magnitudes from zero upwards, so that
rounding a quotient to the nearest one is a division on the grid of its binade, and the encoding is
one addition.  All arithmetic is exact, on natural numbers.
-/

namespace SqlSession.Number

/-- The nearest integer to a quotient; a tie goes to the even neighbour. -/
def divNearest (num den : Nat) : Nat :=
  let q := num / den
  let twice := 2 * (num % den)
  if twice < den then q else if den < twice then q + 1 else if q % 2 = 0 then q else q + 1

/-- The nearest multiple of `2 ^ grid` to a quotient, as the count of grid steps. -/
def gridSteps (grid : Int) (num den : Nat) : Nat :=
  if 0 ≤ grid then divNearest num (den * Nat.pow 2 grid.toNat)
  else divNearest (num * Nat.pow 2 (-grid).toNat) den

/-- The exponent of the binade `[2 ^ e, 2 ^ (e + 1))` that holds a positive quotient. -/
def binade (num den : Nat) : Int :=
  let e : Int := (num.log2 : Int) - (den.log2 : Int)
  let reached := if 0 ≤ e then den * Nat.pow 2 e.toNat ≤ num else den ≤ num * Nat.pow 2 (-e).toNat
  if reached then e else e - 1

/-- A binary floating-point format. -/
structure BinaryFormat where
  /-- Bits of the significand after the leading one. -/
  fractionBits : Nat
  /-- Bits of the exponent. -/
  exponentBits : Nat
deriving DecidableEq, Repr

namespace BinaryFormat

/-- Single precision. -/
def single : BinaryFormat := ⟨23, 8⟩

/-- Double precision. -/
def double : BinaryFormat := ⟨52, 11⟩

variable (f : BinaryFormat)

/-- The power of two that is the least positive value. -/
def leastExponent : Int := 2 - Nat.pow 2 (f.exponentBits - 1) - (f.fractionBits : Int)

/-- The magnitude bits of infinity; larger ones are not numbers. -/
def infinity : Nat := (Nat.pow 2 f.exponentBits - 1) * Nat.pow 2 f.fractionBits

/-- The magnitude bits of the value nearest to a quotient, ties to an even significand and
infinity from half a unit above the largest value. -/
def nearest (num den : Nat) : Nat :=
  if num = 0 then 0
  else
    let grid := max (binade num den - (f.fractionBits : Int)) f.leastExponent
    min ((grid - f.leastExponent).toNat * Nat.pow 2 f.fractionBits + gridSteps grid num den)
      f.infinity

/-- The exponent field of magnitude bits. -/
def exponentField (bits : Nat) : Nat := bits / Nat.pow 2 f.fractionBits

/-- The integer coefficient of a finite magnitude. -/
def coefficient (bits : Nat) : Nat :=
  bits % Nat.pow 2 f.fractionBits + if f.exponentField bits = 0 then 0 else Nat.pow 2 f.fractionBits

/-- The power of two that scales the coefficient of a finite magnitude. -/
def scale (bits : Nat) : Int := f.leastExponent + ((f.exponentField bits - 1 : Nat) : Int)

end BinaryFormat

end SqlSession.Number
