import SqlSession.Number.Decimal
import SqlSession.Text.Fold

/-! # Double-precision numbers

A double is its 64 bits.  What the bits denote (`Double.view`), which integer they denote if they
denote one, equality and order of the denoted values, passage into words, reading from decimal text,
and the few operations with one rounding that the library needs.
-/

namespace SqlSession

/-- A double-precision number, as its bits. -/
structure Double where
  bits : UInt64
deriving DecidableEq, Repr, Inhabited

namespace Double

open Number

/-- The weight of the sign bit. -/
def signWeight : Nat := Nat.pow 2 63

/-- What a bit pattern denotes: a finite value is `coefficient * 2 ^ scale` under a sign. -/
inductive View where
  | nan
  | infinite (negative : Bool)
  | finite (negative : Bool) (coefficient : Nat) (scale : Int)
deriving DecidableEq, Repr

/-- The number with a given sign and magnitude bits. -/
def ofMagnitude (negative : Bool) (magnitude : Nat) : Double :=
  ⟨UInt64.ofNat (magnitude + if negative then signWeight else 0)⟩

/-- The bits without the sign. -/
def magnitude (x : Double) : Nat := x.bits.toNat % signWeight

/-- Whether the sign bit is set. -/
def negative (x : Double) : Bool := signWeight ≤ x.bits.toNat

/-- What the bits denote. -/
def view (x : Double) : View :=
  let m := x.magnitude
  if BinaryFormat.double.infinity < m then .nan
  else if m = BinaryFormat.double.infinity then .infinite x.negative
  else .finite x.negative (BinaryFormat.double.coefficient m) (BinaryFormat.double.scale m)

/-- The bits that stand for a result which is not a number. -/
def nan : Double := ⟨0x7ff8000000000000⟩

/-- Positive zero. -/
def zero : Double := ⟨0⟩

def isNan (x : Double) : Bool := BinaryFormat.double.infinity < x.magnitude

def isFinite (x : Double) : Bool := x.magnitude < BinaryFormat.double.infinity

/-- The double with the opposite sign. -/
def neg (x : Double) : Double := ofMagnitude (!x.negative) x.magnitude

/-- Equality of the denoted values: the zeros are equal, and what is not a number equals nothing. -/
def same (x y : Double) : Bool :=
  !x.isNan && !y.isNan && (x.bits == y.bits || (x.magnitude == 0 && y.magnitude == 0))

/-- The double nearest to a quotient under a sign. -/
def ofQuotient (negative : Bool) (num den : Nat) : Double :=
  ofMagnitude negative (BinaryFormat.double.nearest num den)

/-- The double nearest to an integer. -/
def ofInt (i : Int) : Double := ofQuotient (i < 0) i.natAbs 1

/-- The integer that a double denotes, if it denotes one. -/
def toInt? (x : Double) : Option Int :=
  match x.view with
  | .finite negative c e =>
    let magnitude? : Option Nat :=
      if 0 ≤ e then some (c * Nat.pow 2 e.toNat)
      else if c % Nat.pow 2 (-e).toNat = 0 then some (c / Nat.pow 2 (-e).toNat)
      else none
    magnitude?.map fun (m : Nat) => if negative then -(m : Int) else (m : Int)
  | _ => none

/-- Numerator and denominator of the magnitude of a finite value. -/
def quotient (coefficient : Nat) (scale : Int) : Nat × Nat :=
  (coefficient * Nat.pow 2 scale.toNat, Nat.pow 2 (-scale).toNat)

/-- Magnitudes multiplied and divided with one rounding; the sign is that of the first factor.  For
finite positive `y`. -/
def scaledBy (x y : Double) (divide : Bool) : Double :=
  match x.view, y.view with
  | .finite s c e, .finite _ d g =>
    let (xn, xd) := quotient c e
    let (yn, yd) := quotient d g
    if divide then ofQuotient s (xn * yd) (xd * yn) else ofQuotient s (xn * yn) (xd * yd)
  | _, _ => x

/-- Numerator and denominator of a finite value. -/
def ratio? (x : Double) : Option (Int × Nat) :=
  match x.view with
  | .finite negative c e =>
    let (num, den) := quotient c e
    some (if negative then -(num : Int) else num, den)
  | _ => none

/-- The double nearest to a ratio. -/
def ofRatio (num : Int) (den : Nat) : Double := ofQuotient (num < 0) num.natAbs den

/-- The difference of two finite doubles, rounded once. -/
def sub? (x y : Double) : Option Double := do
  let (a, b) ← x.ratio?
  let (c, d) ← y.ratio?
  return ofRatio (a * d - c * b) (b * d)

/-- The product of two finite doubles, rounded once. -/
def mul? (x y : Double) : Option Double := do
  let (a, b) ← x.ratio?
  let (c, d) ← y.ratio?
  return ofRatio (a * c) (b * d)

/-- A finite double cut off at the point, towards zero. -/
def truncated? (x : Double) : Option Int := x.ratio?.map fun (a, b) => a.tdiv b

/-- What a finite double has after the point, with its sign. -/
def fraction? (x : Double) : Option Double :=
  x.ratio?.map fun (a, b) => ofRatio (a.tmod b) b

/-- The bits as a number that grows with the denoted value. -/
def rank (x : Double) : Int := if x.negative then -(x.magnitude : Int) else x.magnitude

/-- Whether a double is at most another one.  What is not a number compares with nothing. -/
def le (x y : Double) : Bool := !x.isNan && !y.isNan && x.rank ≤ y.rank

/-- Whether a double is less than another one. -/
def lt (x y : Double) : Bool := !x.isNan && !y.isNan && x.rank < y.rank

/-- A double cut off at the point and kept between two integers; zero if it is not a number. -/
def clamped (low high : Int) (x : Double) : Int :=
  match x.truncated? with
  | some i => max low (min high i)
  | none => if x.isNan then 0 else if x.negative then low else high

/-- The signed word nearest to a double cut off at the point. -/
def toInt64 (x : Double) : Int64 :=
  Int64.ofInt (x.clamped Int64.minValue.toInt Int64.maxValue.toInt)

/-- The unsigned word nearest to a double cut off at the point. -/
def toUInt64 (x : Double) : UInt64 := UInt64.ofNat (x.clamped 0 (UInt64.size - 1 : Nat)).toNat

/-- The single-precision magnitude and sign read as a double, which holds it exactly. -/
def ofSingle (bits : Nat) : Double :=
  let f := BinaryFormat.single
  let m := bits % Nat.pow 2 31
  let negative : Bool := Nat.pow 2 31 ≤ bits
  if f.infinity < m then nan
  else if m = f.infinity then ofMagnitude negative BinaryFormat.double.infinity
  else
    let (num, den) := quotient (f.coefficient m) (f.scale m)
    ofQuotient negative num den

/-- The words for values that no digits denote, and decimals, as magnitude bits of a format. -/
def magnitudeOfText? (f : BinaryFormat) (s : List Char) : Option Nat :=
  let word := s.map Char.toLower
  if word = "inf".toList ∨ word = "infinity".toList then some f.infinity
  else if word = "nan".toList then some (f.infinity + Nat.pow 2 (f.fractionBits - 1))
  else (Decimal.parse? s).map (Decimal.nearest f)

/-- A sign and magnitude bits read from decimal text. -/
def signedOfText? (f : BinaryFormat) : List Char → Option (Bool × Nat)
  | '-' :: r => (magnitudeOfText? f r).map (true, ·)
  | '+' :: r => (magnitudeOfText? f r).map (false, ·)
  | s => (magnitudeOfText? f s).map (false, ·)

/-- The double nearest to a decimal text. -/
def ofText? (s : List Char) : Option Double :=
  (signedOfText? .double s).map fun (negative, m) => ofMagnitude negative m

/-- The single-precision number nearest to a decimal text, as a double. -/
def ofSingleText? (s : List Char) : Option Double :=
  (signedOfText? .single s).map fun (negative, m) => ofSingle (m + if negative then Nat.pow 2 31 else 0)

end Double

end SqlSession
