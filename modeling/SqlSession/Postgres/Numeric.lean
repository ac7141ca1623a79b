import SqlSession.Calendar.Text
import SqlSession.Text.Utf8

/-! # Exact numerics of PostgreSQL

The binary form of a numeric is a header of four 16-bit words (number of digit groups, weight of the
first group, sign, and digits after the point) and then the groups, which are digits to the base ten
thousand.  It is written out in full: no digit is rounded, and as many are shown after the point as the
header says.
-/

namespace SqlSession.Postgres

/-- A 16-bit word, high octet first. -/
def word (a b : UInt8) : Nat := a.toNat * 256 + b.toNat

/-- The 16-bit words of an even number of octets; one octet over is left out. -/
def wordsOf : Bytes → List Nat
  | a :: b :: r => word a b :: wordsOf r
  | _ => []

/-- The binary form of a numeric, taken apart. -/
structure Numeric where
  groups : List Nat
  /-- The power of ten thousand of the first group. -/
  weight : Int
  sign : Nat
  /-- Digits after the point. -/
  scale : Nat
deriving DecidableEq, Repr

namespace Numeric

/-- The sign word of a negative number. -/
def negativeSign : Nat := 0x4000

/-- The sign word of what is not a number. -/
def nanSign : Nat := 0xC000

/-- Takes a value apart; its groups must all be there, unless it is not a number. -/
def ofBytes? (b : Bytes) : Option Numeric :=
  match wordsOf b with
  | count :: weight :: sign :: scale :: groups =>
    let signed : Int := if weight < 0x8000 then weight else (weight : Int) - 0x10000
    if sign = nanSign then some ⟨[], signed, sign, scale⟩
    else if groups.length < count then none
    else some ⟨groups.take count, signed, sign, scale⟩
  | _ => none

/-- The group at a position, zero outside of the value. -/
def groupAt (n : Numeric) (pos : Int) : Nat :=
  if pos < 0 then 0 else n.groups.getD pos.toNat 0

/-- A group in four digits. -/
def groupText (g : Nat) : List Char := (Calendar.padded 4 g).toList

/-- The digits before the point. -/
def wholeText (n : Numeric) : List Char :=
  if n.weight < 0 then ['0']
  else
    Nat.toDigits 10 (n.groupAt 0) ++
      (List.range n.weight.toNat).flatMap fun i => groupText (n.groupAt ((i + 1 : Nat) : Int))

/-- The first `count` digits of the groups from a position on. -/
def digitsFrom (n : Numeric) : (fuel count : Nat) → Int → List Char
  | 0, _, _ => []
  | fuel + 1, count, pos =>
    if count = 0 then []
    else
      let g := groupText (n.groupAt pos)
      g.take count ++ digitsFrom n fuel (count - g.length) (pos + 1)

/-- The digits after the point. -/
def fraction (n : Numeric) : List Char := n.digitsFrom n.scale n.scale (n.weight + 1)

/-- A numeric in decimal notation. -/
def text (n : Numeric) : String :=
  if n.sign = nanSign then "NaN"
  else
    String.ofList <|
      (if n.sign = negativeSign then ['-'] else []) ++ n.wholeText ++
        if n.scale = 0 then [] else '.' :: n.fraction

end Numeric

end SqlSession.Postgres
