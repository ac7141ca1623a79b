import SqlSession.Text.Utf8

/-! # Base64

The standard alphabet with padding, as binary values are written in JSON and read from it.
-/

namespace SqlSession.Text

/-- The digit of a value below sixty-four. -/
def base64Digit (n : Nat) : Char :=
  if n < 26 then Char.ofNat (65 + n)
  else if n < 52 then Char.ofNat (71 + n)
  else if n < 62 then Char.ofNat (n - 4)
  else if n == 62 then '+'
  else '/'

/-- Octets in base64, three to a group of four digits, the last group padded with `=`. -/
def base64Chars : Bytes → List Char
  | [] => []
  | [a] =>
    let n := a.toNat
    [base64Digit (n / 4), base64Digit (n % 4 * 16), '=', '=']
  | [a, b] =>
    let n := a.toNat * 256 + b.toNat
    [base64Digit (n / 1024), base64Digit (n / 16 % 64), base64Digit (n % 16 * 4), '=']
  | a :: b :: c :: r =>
    let n := (a.toNat * 256 + b.toNat) * 256 + c.toNat
    base64Digit (n / 262144) :: base64Digit (n / 4096 % 64) :: base64Digit (n / 64 % 64) ::
      base64Digit (n % 64) :: base64Chars r

/-- Octets as base64 text. -/
def base64 (b : Bytes) : String := String.ofList (base64Chars b)

/-- The value of a digit. -/
def base64Value? (c : Char) : Option Nat :=
  let n := c.toNat
  if 65 ≤ n && n ≤ 90 then some (n - 65)
  else if 97 ≤ n && n ≤ 122 then some (n - 71)
  else if 48 ≤ n && n ≤ 57 then some (n + 4)
  else if n == 43 then some 62
  else if n == 47 then some 63
  else none

/-- Groups of four digits read as octets.  Only the last group may be padded, and must be if it is short;
its last digit must hold nothing beyond the last octet. -/
def ofBase64Chars? : List Char → Option Bytes
  | [] => some []
  | [a, b, '=', '='] => do
    let n := (← base64Value? a) * 64 + (← base64Value? b)
    if n % 16 = 0 then return [UInt8.ofNat (n / 16)] else none
  | [a, b, c, '='] => do
    let n := ((← base64Value? a) * 64 + (← base64Value? b)) * 64 + (← base64Value? c)
    if n % 4 = 0 then return [UInt8.ofNat (n / 1024), UInt8.ofNat (n / 4)] else none
  | a :: b :: c :: d :: r => do
    let n := (((← base64Value? a) * 64 + (← base64Value? b)) * 64 + (← base64Value? c)) * 64 +
      (← base64Value? d)
    return UInt8.ofNat (n / 65536) :: UInt8.ofNat (n / 256) :: UInt8.ofNat n :: (← ofBase64Chars? r)
  | _ => none

/-- The octets of a base64 text. -/
def ofBase64? (s : String) : Option Bytes := ofBase64Chars? s.toList

end SqlSession.Text
