/-! # Integer numerals

Reading of decimal integers, signed and unsigned, without size limit, and the passage into the
64-bit words that hold them.
-/

namespace SqlSession.Number

/-- The number that a non-empty list of decimal digits denotes. -/
def nat? (s : List Char) : Option Nat :=
  if s.isEmpty || !s.all Char.isDigit then none else some (Nat.ofDigitChars 10 s 0)

/-- Decimal digits after at most one sign. -/
def int? : List Char → Option Int
  | '-' :: r => (nat? r).map fun n => -(n : Int)
  | '+' :: r => (nat? r).map Int.ofNat
  | s => (nat? s).map Int.ofNat

/-- Decimal digits after at most a plus sign. -/
def unsigned? : List Char → Option Nat
  | '+' :: r => nat? r
  | s => nat? s

/-- Whether an integer fits a signed word of `bits` bits. -/
def fitsSigned (bits : Nat) (i : Int) : Bool := -Nat.pow 2 (bits - 1) ≤ i && i < Nat.pow 2 (bits - 1)

/-- Whether an integer fits an unsigned word of `bits` bits. -/
def fitsUnsigned (bits : Nat) (i : Int) : Bool := 0 ≤ i && i < Nat.pow 2 bits

/-- An integer as a signed 64-bit word, if it fits. -/
def toInt64? (i : Int) : Option Int64 := if fitsSigned 64 i then some (Int64.ofInt i) else none

/-- An integer as an unsigned 64-bit word, if it fits. -/
def toUInt64? (i : Int) : Option UInt64 :=
  if fitsUnsigned 64 i then some (UInt64.ofNat i.toNat) else none

/-- A signed decimal numeral that fits a signed 64-bit word. -/
def int64? (s : List Char) : Option Int64 := int? s >>= toInt64?

/-- An unsigned decimal numeral that fits an unsigned 64-bit word. -/
def uint64? (s : List Char) : Option UInt64 := (unsigned? s).bind fun n => toUInt64? (n : Int)

end SqlSession.Number
