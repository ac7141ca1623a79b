import SqlSession.Text.Utf8

/-! # Hexadecimal digits

Lower-case hexadecimal writing of octets, and its reading in either case.
-/

namespace SqlSession.Text

/-- The value of a hexadecimal digit of either case. -/
def hexValue? (c : Char) : Option Nat :=
  let n := c.toNat
  if 48 ≤ n && n ≤ 57 then some (n - 48)
  else if 97 ≤ n && n ≤ 102 then some (n - 87)
  else if 65 ≤ n && n ≤ 70 then some (n - 55)
  else none

/-- The lower-case digit of a value below sixteen. -/
def hexDigit (n : Nat) : Char := if n < 10 then Char.ofNat (48 + n) else Char.ofNat (87 + n)

/-- The upper-case digit of a value below sixteen. -/
def hexDigitUpper (n : Nat) : Char := if n < 10 then Char.ofNat (48 + n) else Char.ofNat (55 + n)

/-- Octets as pairs of lower-case digits. -/
def hex (b : Bytes) : String :=
  String.ofList (b.flatMap fun x => [hexDigit (x.toNat / 16), hexDigit (x.toNat % 16)])

/-- Pairs of digits as octets; `none` for an odd count or a character that is no digit. -/
def ofHex? : List Char → Option Bytes
  | [] => some []
  | [_] => none
  | a :: b :: r => do
    let high ← hexValue? a
    let low ← hexValue? b
    let rest ← ofHex? r
    return UInt8.ofNat (high * 16 + low) :: rest

/-- The digits of a number in base sixteen, at least one. -/
def hexNumber (n : Nat) : List Char := (Nat.toDigits 16 n)

/-- A number in exactly `width` digits of base sixteen, higher digits dropped. -/
def hexFixed : Nat → Nat → List Char
  | 0, _ => []
  | width + 1, n => hexFixed width (n / 16) ++ [hexDigit (n % 16)]

/-- The number that a list of hexadecimal digits denotes, if they all are. -/
def hexToNat? (s : List Char) : Option Nat :=
  s.foldl (fun acc c => do return (← acc) * 16 + (← hexValue? c)) (some 0)

end SqlSession.Text
