import SqlSession.Json.Basic
import SqlSession.Text.Hex
import SqlSession.Text.Search

/-! # JSON tokens

The grammar of JSON's words, strings and numbers.  A number with a point or an exponent is scaled in
double precision: of its digits those that fit a 64-bit word are kept, and the word is multiplied or
divided by a power of ten.
-/

namespace SqlSession.Json

/-- The white space of JSON. -/
def isSpace (c : Char) : Bool := c == ' ' || c == '\n' || c == '\t' || c == '\r'

/-- The character that a one-letter escape stands for. -/
def escaped? : Char → Option Char
  | '"' => some '"'
  | '\\' => some '\\'
  | '/' => some '/'
  | 'b' => some '\x08'
  | 'f' => some '\x0c'
  | 'n' => some '\n'
  | 'r' => some '\r'
  | 't' => some '\t'
  | _ => none

/-- The number that four hexadecimal digits denote. -/
def unit? (a b c d : Char) : Option Nat := Text.hexToNat? [a, b, c, d]

/-- A string up to its closing quote, and what follows it.  Escaped surrogates must come in pairs,
and controls must be escaped. -/
def scanString : List Char → Option (List Char × List Char)
  | [] => none
  | '"' :: r => some ([], r)
  | '\\' :: 'u' :: a :: b :: c :: d :: '\\' :: 'u' :: e :: f :: g :: h :: r =>
    match unit? a b c d, unit? e f g h with
    | some n, some m =>
      if 0xD800 ≤ n && n ≤ 0xDBFF then
        if 0xDC00 ≤ m && m ≤ 0xDFFF then
          (scanString r).map fun (s, rest) =>
            (Char.ofNat (0x10000 + (n - 0xD800) * 0x400 + (m - 0xDC00)) :: s, rest)
        else none
      else if 0xDC00 ≤ n && n ≤ 0xDFFF then none
      else
        (scanString ('\\' :: 'u' :: e :: f :: g :: h :: r)).map fun (s, rest) =>
          (Char.ofNat n :: s, rest)
    | _, _ => none
  | '\\' :: 'u' :: a :: b :: c :: d :: r =>
    match unit? a b c d with
    | some n =>
      if 0xD800 ≤ n && n ≤ 0xDFFF then none
      else (scanString r).map fun (s, rest) => (Char.ofNat n :: s, rest)
    | none => none
  | '\\' :: c :: r =>
    match escaped? c with
    | some e => (scanString r).map fun (s, rest) => (e :: s, rest)
    | none => none
  | c :: r =>
    if c.toNat < 0x20 then none else (scanString r).map fun (s, rest) => (c :: s, rest)

/-- The largest value of a 64-bit word. -/
def wordLimit : Nat := Nat.pow 2 64 - 1

/-- Digits appended to a significand as long as it stays within a word, and how many were. -/
def absorb (significand : Nat) : List Char → Nat × Nat
  | [] => (significand, 0)
  | c :: r =>
    let next := significand * 10 + (c.toNat - 48)
    if next ≤ wordLimit then
      let (s, n) := absorb next r
      (s, n + 1)
    else (significand, 0)

/-- The double nearest to a power of ten. -/
def powerOfTen (n : Nat) : Double := Double.ofInt (Nat.pow 10 n : Nat)

/-- A significand times a power of ten, in double precision; `none` when it is too large.  At most
`fuel` divisions by the largest power of ten are made, after which any significand is zero. -/
def scaled? : Nat → Double → Int → Option Double
  | 0, x, _ => some x
  | fuel + 1, x, e =>
    if 308 < e then if x = Double.zero then some x else none
    else if 0 ≤ e then
      let y := x.scaledBy (powerOfTen e.toNat) false
      if y.isFinite then some y else none
    else if -308 ≤ e then some (x.scaledBy (powerOfTen (-e).toNat) true)
    else if x = Double.zero then some x
    else scaled? fuel (x.scaledBy (powerOfTen 308) true) (e + 308)

/-- The exponent part of a number, if there is one, and what follows it. -/
def scanExponent : List Char → Option (Option Int × List Char)
  | [] => some (none, [])
  | c :: r =>
    if c = 'e' ∨ c = 'E' then
      let (negative, r) : Bool × List Char := match r with
        | '-' :: r => (true, r)
        | '+' :: r => (false, r)
        | r => (false, r)
      let digits := r.takeWhile Char.isDigit
      if digits.isEmpty then none
      else
        let e : Int := Nat.ofDigitChars 10 digits 0
        some (some (if negative then -e else e), r.dropWhile Char.isDigit)
    else some (none, c :: r)

/-- The number of an unsigned numeral without point or exponent, under a sign. -/
def integral? (negative : Bool) (digits : List Char) : Option Json :=
  let n := Nat.ofDigitChars 10 digits 0
  let (significand, kept) := absorb 0 digits
  if kept = digits.length then
    if !negative then some (.int n)
    else if n = 0 ∨ Nat.pow 2 63 < n then some (.float (Double.ofInt n).neg)
    else some (.int (-n))
  else
    (scaled? 4 (Double.ofInt significand) (digits.length - kept)).map fun x =>
      .float (if negative then x.neg else x)

/-- The number of a numeral with digits after a point, or with an exponent, or both. -/
def fractional? (negative : Bool) (whole part : List Char) (exponent : Int) : Option Json :=
  let (s, kept) := absorb 0 whole
  let (significand, used) := absorb s part
  let e := exponent + (whole.length - kept) - used
  (scaled? 4 (Double.ofInt significand) e).map fun x => .float (if negative then x.neg else x)

/-- A number whose sign has been read, and what follows it. -/
def scanMagnitude (negative : Bool) (s : List Char) : Option (Json × List Char) := do
  let whole := s.takeWhile Char.isDigit
  let rest := s.dropWhile Char.isDigit
  if whole.isEmpty || (whole.length != 1 && whole.head? == some '0') then none
  else
    match rest with
    | '.' :: r =>
      let part := r.takeWhile Char.isDigit
      if part.isEmpty then none
      else
        let (e, rest) ← scanExponent (r.dropWhile Char.isDigit)
        return (← fractional? negative whole part (e.getD 0), rest)
    | r =>
      match ← scanExponent r with
      | (some e, rest) => return (← fractional? negative whole [] e, rest)
      | (none, rest) => return (← integral? negative whole, rest)

/-- A number, and what follows it. -/
def scanNumber : List Char → Option (Json × List Char)
  | '-' :: r => scanMagnitude true r
  | s => scanMagnitude false s

/-- The pieces of a JSON text. -/
inductive Token where
  | scalar (value : Json)
  | comma
  | colon
  | arrOpen
  | arrClose
  | objOpen
  | objClose
deriving Repr

/-- One token that starts with a given character, and what follows it. -/
def scanToken (c : Char) (r : List Char) : Option (Token × List Char) :=
  match c with
  | ',' => some (.comma, r)
  | ':' => some (.colon, r)
  | '[' => some (.arrOpen, r)
  | ']' => some (.arrClose, r)
  | '\x7b' => some (.objOpen, r)
  | '\x7d' => some (.objClose, r)
  | '"' => (scanString r).map fun (s, rest) => (.scalar (.str (String.ofList s)), rest)
  | 'n' => (Text.afterPrefix "ull".toList r).map (.scalar .null, ·)
  | 't' => (Text.afterPrefix "rue".toList r).map (.scalar (.bool true), ·)
  | 'f' => (Text.afterPrefix "alse".toList r).map (.scalar (.bool false), ·)
  | c => (scanNumber (c :: r)).map fun (j, rest) => (.scalar j, rest)

/-- The tokens of a text, each at least one character long. -/
def tokensWithin : Nat → List Char → Option (List Token)
  | 0, s => if s.isEmpty then some [] else none
  | fuel + 1, s =>
    match s.dropWhile isSpace with
    | [] => some []
    | c :: r => do
      let (t, rest) ← scanToken c r
      return t :: (← tokensWithin fuel rest)

/-- The tokens of a text. -/
def tokens (s : List Char) : Option (List Token) := tokensWithin s.length s

end SqlSession.Json
