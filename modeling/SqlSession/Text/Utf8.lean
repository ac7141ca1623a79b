/-! # UTF-8

Octet sequences, their reading as UTF-8 text, and the fault that a malformed sequence shows: the
offset at which the well-formed part ends, and the length of the malformed run, if it is not cut off
by the end of the input.
-/

namespace SqlSession

/-- A sequence of octets. -/
abbrev Bytes := List UInt8

namespace Text

/-- The UTF-8 encoding of one character. -/
def utf8Char (c : Char) : Bytes :=
  let n := c.toNat
  if n < 0x80 then [UInt8.ofNat n]
  else if n < 0x800 then [UInt8.ofNat (0xC0 + n / 64), UInt8.ofNat (0x80 + n % 64)]
  else if n < 0x10000 then
    [UInt8.ofNat (0xE0 + n / 4096), UInt8.ofNat (0x80 + n / 64 % 64), UInt8.ofNat (0x80 + n % 64)]
  else
    [UInt8.ofNat (0xF0 + n / 262144), UInt8.ofNat (0x80 + n / 4096 % 64),
      UInt8.ofNat (0x80 + n / 64 % 64), UInt8.ofNat (0x80 + n % 64)]

/-- The UTF-8 encoding of a text. -/
def utf8 (s : String) : Bytes := s.toList.flatMap utf8Char

/-- Where and how a sequence of octets stops being UTF-8. -/
structure Utf8Fault where
  /-- Octets of well-formed text before the fault. -/
  offset : Nat
  /-- Length of the malformed run, or `none` when the input ends inside a character. -/
  length : Option Nat
deriving DecidableEq, Repr

namespace Utf8Fault

/-- The wording of a fault. -/
def message (f : Utf8Fault) : String :=
  match f.length with
  | some n => s!"invalid utf-8 sequence of {n} bytes from index {f.offset}"
  | none => s!"incomplete utf-8 byte sequence from index {f.offset}"

end Utf8Fault

/-- The shape that the first octet of a character announces: how many octets follow it, the range of
the first of those, and the bits that the first octet contributes. -/
structure Utf8Lead where
  following : Nat
  low : Nat
  high : Nat
  bits : Nat

/-- The shape announced by an octet, if a character may start with it.  The ranges shut out overlong
forms, surrogates and everything above U+10FFFF. -/
def utf8Lead (b : Nat) : Option Utf8Lead :=
  if b < 0x80 then some ⟨0, 0x80, 0xBF, b⟩
  else if 0xC2 ≤ b && b ≤ 0xDF then some ⟨1, 0x80, 0xBF, b - 0xC0⟩
  else if b == 0xE0 then some ⟨2, 0xA0, 0xBF, 0⟩
  else if b == 0xED then some ⟨2, 0x80, 0x9F, 0xD⟩
  else if 0xE1 ≤ b && b ≤ 0xEF then some ⟨2, 0x80, 0xBF, b - 0xE0⟩
  else if b == 0xF0 then some ⟨3, 0x90, 0xBF, 0⟩
  else if b == 0xF4 then some ⟨3, 0x80, 0x8F, 4⟩
  else if 0xF1 ≤ b && b ≤ 0xF3 then some ⟨3, 0x80, 0xBF, b - 0xF0⟩
  else none

/-- A character that has been started: octets still to come, range of the next, bits so far, and
octets taken. -/
structure Utf8Pending where
  missing : Nat
  low : Nat
  high : Nat
  bits : Nat
  taken : Nat

/-- Reads octets as UTF-8; `offset` counts the octets of complete characters before this point and
`pending` is the character under construction. -/
def utf8Scan (offset : Nat) (pending : Option Utf8Pending) : Bytes → Except Utf8Fault (List Char)
  | [] => if pending.isSome then .error ⟨offset, none⟩ else .ok []
  | b :: r =>
    match pending with
    | none =>
      match utf8Lead b.toNat with
      | none => .error ⟨offset, some 1⟩
      | some ⟨0, _, _, bits⟩ => (utf8Scan (offset + 1) none r).map (Char.ofNat bits :: ·)
      | some ⟨n + 1, low, high, bits⟩ => utf8Scan offset (some ⟨n + 1, low, high, bits, 1⟩) r
    | some p =>
      if p.low ≤ b.toNat && b.toNat ≤ p.high then
        let bits := p.bits * 64 + (b.toNat - 0x80)
        if p.missing ≤ 1 then (utf8Scan (offset + p.taken + 1) none r).map (Char.ofNat bits :: ·)
        else utf8Scan offset (some ⟨p.missing - 1, 0x80, 0xBF, bits, p.taken + 1⟩) r
      else .error ⟨offset, some p.taken⟩

/-- Octets as text, or the fault in them. -/
def ofUtf8 (b : Bytes) : Except Utf8Fault String := (utf8Scan 0 none b).map String.ofList

/-- Octets as text, if they are well-formed UTF-8. -/
def ofUtf8? (b : Bytes) : Option String := (ofUtf8 b).toOption

/-- Octets as text, each maximal malformed run of the given list read as one replacement character. -/
def utf8Lossy : Nat → Bytes → List Char
  | 0, _ => []
  | fuel + 1, b =>
    match utf8Scan 0 none b with
    | .ok s => s
    | .error f =>
      let good := match utf8Scan 0 none (b.take f.offset) with
        | .ok s => s
        | .error _ => []
      let rest := match f.length with
        | some n => utf8Lossy fuel (b.drop (f.offset + n))
        | none => []
      good ++ Char.ofNat 0xFFFD :: rest

/-- Octets as text, with a replacement character for each malformed run. -/
def ofUtf8Lossy (b : Bytes) : String := String.ofList (utf8Lossy (b.length + 1) b)

/-! ### Positions in octets -/

/-- How many octets a text takes. -/
def octets (s : List Char) : Nat := (s.flatMap utf8Char).length

/-- What follows so many octets, if a character ends there. -/
def dropOctets? : Nat → List Char → Option (List Char)
  | 0, s => some s
  | _ + 1, [] => none
  | n + 1, c :: r => if octets [c] ≤ n + 1 then dropOctets? (n + 1 - octets [c]) r else none

/-- The first so many octets, if a character ends there. -/
def takeOctets? : Nat → List Char → Option (List Char)
  | 0, _ => some []
  | _ + 1, [] => none
  | n + 1, c :: r =>
    if octets [c] ≤ n + 1 then (takeOctets? (n + 1 - octets [c]) r).map (c :: ·) else none

end Text

end SqlSession
