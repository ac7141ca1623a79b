import SqlSession.Number.Double

/-! # Shortest decimals

The decimal with the fewest digits among those that read back as a given double, and of these the
nearest.  A decimal grid is tried from coarse to fine: if a point of a grid rounds to the double, so
does one of the two neighbours of the double on that grid.
-/

namespace SqlSession.Number

/-- The reals that round to a finite positive double, as numerators over a common denominator; the
ends belong to the interval iff `closed`. -/
structure RoundingInterval where
  low : Nat
  value : Nat
  high : Nat
  den : Nat
  closed : Bool

namespace RoundingInterval

/-- The interval of the double `coefficient * 2 ^ scale`; below a power of two the spacing halves,
except at the end of the normal range. -/
def ofDouble (coefficient : Nat) (scale : Int) : RoundingInterval :=
  let f := BinaryFormat.double
  let halved := coefficient = Nat.pow 2 f.fractionBits ∧ f.leastExponent < scale
  let (unit, den) := Double.quotient 1 scale
  ⟨(4 * coefficient - if halved then 1 else 2) * unit, 4 * coefficient * unit,
    (4 * coefficient + 2) * unit, 4 * den, coefficient % 2 = 0⟩

/-- Whether a fraction lies in the interval. -/
def holds (i : RoundingInterval) (num den : Nat) : Bool :=
  let x := num * i.den
  if i.closed then i.low * den ≤ x && x ≤ i.high * den else i.low * den < x && x < i.high * den

/-- The point of the grid of multiples of `10 ^ e` that lies in the interval, nearest to its value
and even if two are equally near. -/
def onGrid? (i : RoundingInterval) (e : Int) : Option Decimal :=
  let unitNum := Nat.pow 10 e.toNat
  let unitDen := Nat.pow 10 (-e).toNat
  let scaled := i.value * unitDen
  let step := i.den * unitNum
  let below := scaled / step
  let rest := 2 * (scaled % step)
  let belowIn := i.holds (below * unitNum) unitDen
  let aboveIn := i.holds ((below + 1) * unitNum) unitDen
  let takeAbove := aboveIn && (!belowIn || step < rest || (rest == step && below % 2 == 1))
  if takeAbove then some ⟨below + 1, e⟩ else if belowIn then some ⟨below, e⟩ else none

/-- The first hit on the grids `10 ^ e`, `10 ^ (e - 1)`, …. -/
def search (i : RoundingInterval) : Nat → Int → Option Decimal
  | 0, _ => none
  | fuel + 1, e => match i.onGrid? e with
    | some d => some d
    | none => search i fuel (e - 1)

/-- An exponent of ten whose power exceeds the value. -/
def start (i : RoundingInterval) : Int :=
  ((i.value.log2 : Int) - (i.den.log2 : Int) + 1) * 30103 / 100000 + 2

end RoundingInterval

/-- Grids tried: three coarser than the value and the seventeen that any double needs, with room. -/
def gridCount : Nat := 24

/-- Trailing zeros of a coefficient moved into the exponent, at most `fuel` of them. -/
def Decimal.strip : Nat → Decimal → Decimal
  | 0, d => d
  | fuel + 1, d =>
    if d.coefficient ≠ 0 ∧ d.coefficient % 10 = 0 then
      Decimal.strip fuel ⟨d.coefficient / 10, d.exponent + 1⟩
    else d

/-- The shortest decimal that reads back as a finite positive double. -/
def shortest (coefficient : Nat) (scale : Int) : Decimal :=
  let i := RoundingInterval.ofDouble coefficient scale
  ((i.search gridCount i.start).getD ⟨0, 0⟩).strip gridCount

/-- How a decimal is laid out: where positional notation ends on either side. -/
structure DecimalLayout where
  /-- Positional notation is used from this power of ten on. -/
  leastPositional : Int
  /-- Positional notation is used below this power of ten. -/
  positionalLimit : Int

/-- The digits of a decimal around a point, at least one on either side. -/
def positional (digits : List Char) (exponent : Int) : List Char :=
  let point : Int := digits.length + exponent
  if 0 ≤ exponent then digits ++ List.replicate exponent.toNat '0' ++ ['.', '0']
  else if 0 < point then digits.take point.toNat ++ '.' :: digits.drop point.toNat
  else '0' :: '.' :: List.replicate (-point).toNat '0' ++ digits

/-- The digits of a decimal with one before the point, and the power of ten with its sign. -/
def scientific (digits : List Char) (exponent : Int) : List Char :=
  let order : Int := digits.length + exponent - 1
  let mantissa := match digits with
    | [] => []
    | [d] => [d]
    | d :: r => d :: '.' :: r
  let sign := if order < 0 then '-' else '+'
  mantissa ++ 'e' :: sign :: Nat.toDigits 10 order.natAbs

/-- The text of a finite magnitude in a layout. -/
def DecimalLayout.write (layout : DecimalLayout) (coefficient : Nat) (scale : Int) : List Char :=
  if coefficient = 0 then ['0', '.', '0']
  else
    let d := shortest coefficient scale
    let digits := Nat.toDigits 10 d.coefficient
    let order : Int := digits.length + d.exponent - 1
    if layout.leastPositional ≤ order && order < layout.positionalLimit then
      positional digits d.exponent
    else scientific digits d.exponent

end SqlSession.Number
