import SqlSession.Number.Extended
import SqlSession.Number.Shortest

/-! # Real numbers and their texts in SQLite

Neither direction is exact.  Both work with 64 bits: a numeral counts with its first nineteen or
twenty digits and is scaled by its exponent step by step, so that the double read from it may be a
neighbour of the nearest one, and a double is written in fifteen digits of an approximation.
-/

namespace SqlSession.Sqlite

open Number

/-! ### Reading -/

/-- The white space that may surround a numeral. -/
def isSpace (c : Char) : Bool := c = ' ' || (9 ≤ c.toNat && c.toNat ≤ 13)

/-- A text without the white space around it. -/
def strip (s : List Char) : List Char := ((s.dropWhile isSpace).reverse.dropWhile isSpace).reverse

/-- The decimal that a text spells, with its sign: digits with at most one point among them and perhaps
an exponent. -/
def decimal? (s : List Char) : Option (Bool × Decimal) :=
  match s with
  | '-' :: r => (Decimal.parse? r).map (true, ·)
  | '+' :: r => (Decimal.parse? r).map (false, ·)
  | s => (Decimal.parse? s).map (false, ·)

/-- The largest word of 64 bits. -/
def largestWord : Nat := Nat.pow 2 64 - 1

/-- From this coefficient on a further digit might not fit a word. -/
def digitLimit : Nat := (largestWord - 9) / 10

/-- A decimal without the digits that no longer fit once the digits before them reach the limit. -/
def dropExcess : Nat → Decimal → Decimal
  | 0, d => d
  | fuel + 1, d =>
    if digitLimit ≤ d.coefficient / 10 then dropExcess fuel ⟨d.coefficient / 10, d.exponent + 1⟩ else d

/-- A decimal with a positive exponent taken into the coefficient, as far as the word goes. -/
def absorb : Nat → Decimal → Decimal
  | 0, d => d
  | fuel + 1, d =>
    if 0 < d.exponent ∧ d.coefficient < largestWord / 10 then
      absorb fuel ⟨d.coefficient * 10, d.exponent - 1⟩
    else d

/-- A decimal with a negative exponent made up for by trailing zeros of the coefficient. -/
def cancel : Nat → Decimal → Decimal
  | 0, d => d
  | fuel + 1, d =>
    if d.exponent < 0 ∧ d.coefficient % 10 = 0 then cancel fuel ⟨d.coefficient / 10, d.exponent + 1⟩
    else d

/-- Digits of a word. -/
def wordDigits : Nat := 20

/-- A positive decimal fitted to a word, by the least change of its exponent. -/
def fitted (d : Decimal) : Decimal := cancel wordDigits (absorb wordDigits d)

/-- The magnitude bits of the double that a decimal stands for. -/
def magnitudeOf (d : Decimal) : Nat :=
  let d := dropExcess (Nat.toDigits 10 d.coefficient).length d
  if d.coefficient = 0 ∨ d.exponent + wordDigits < -Decimal.reach then 0
  else if Decimal.reach < d.exponent then BinaryFormat.double.infinity
  else
    let d := fitted d
    ((Extended.ofNat d.coefficient).shift d.exponent).toDouble

/-- The double that a signed decimal stands for. -/
def realOf (negative : Bool) (d : Decimal) : Double := Double.ofMagnitude negative (magnitudeOf d)

/-! ### Writing -/

/-- Digits of a number that becomes text. -/
def textDigits : Nat := 15

/-- A finite magnitude in fifteen significant digits, with a point and at least one digit after it;
from ten to the fifteenth and below one ten-thousandth with an exponent. -/
def magnitudeText (coefficient : Nat) (scale : Int) : List Char :=
  if coefficient = 0 then ['0', '.', '0']
  else
    let d := ((Extended.ofDouble coefficient scale).significant textDigits).strip textDigits
    let digits := Nat.toDigits 10 d.coefficient
    let order : Int := digits.length + d.exponent - 1
    if order < -4 ∨ (textDigits : Int) ≤ order then
      let tail := digits.drop 1
      let e := order.natAbs
      digits.take 1 ++ '.' :: (if tail.isEmpty then ['0'] else tail) ++ 'e' ::
        (if order < 0 then '-' else '+') :: (if e < 10 then ['0'] else []) ++ Nat.toDigits 10 e
    else positional digits d.exponent

/-- The text of a double. -/
def realText (x : Double) : String :=
  match x.view with
  | .finite negative c e =>
    String.ofList ((if negative && c != 0 then ['-'] else []) ++ magnitudeText c e)
  | .infinite negative => if negative then "-Inf" else "Inf"
  | .nan => ""

end SqlSession.Sqlite
