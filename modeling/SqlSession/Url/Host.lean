import SqlSession.Domain.Name
import SqlSession.Url.Percent

/-! # Hosts

The host of a URL: a name, or an address of either version.  Schemes without rules of their own take
any name of permitted characters; a web address takes a domain, which is put into ASCII, and a name
whose last label is a number is an address there.
-/

namespace SqlSession.Url

/-- The host of a URL. -/
inductive Host where
  /-- A name, percent-encoded. -/
  | named (name : List Char)
  /-- A 32-bit address. -/
  | v4 (address : Nat)
  /-- Eight 16-bit groups. -/
  | v6 (groups : List Nat)
deriving DecidableEq, Repr

/-- Why a text is not a URL. -/
inductive Fault where
  | emptyHost
  | badDomain
  | badPort
  | badAddress4
  | badAddress6
  | badHostCharacter
  /-- No scheme, and nothing that the text could be relative to. -/
  | noScheme
deriving DecidableEq, Repr

namespace Fault

/-- The wording of a fault. -/
def message : Fault → String
  | emptyHost => "empty host"
  | badDomain => "invalid international domain name"
  | badPort => "invalid port number"
  | badAddress4 => "invalid IPv4 address"
  | badAddress6 => "invalid IPv6 address"
  | badHostCharacter => "invalid domain character"
  | noScheme => "relative URL without a base"

end Fault

namespace Host

/-! ### Addresses of four numbers -/

/-- A decimal number below 256 without leading zeros. -/
def octet? (s : List Char) : Option Nat :=
  if s.isEmpty || !s.all Char.isDigit || (s.length > 1 && s.head? == some '0') then none
  else
    let n := Nat.ofDigitChars 10 s 0
    if n < 256 then some n else none

/-- Four numbers with points between them, as two 16-bit groups. -/
def quad? (s : List Char) : Option (List Nat) :=
  match (Text.pieces '.' s).mapM octet? with
  | some [a, b, c, d] => some [a * 256 + b, c * 256 + d]
  | _ => none

/-- The digits of a number and its base: sixteen after `0x`, eight after a leading zero, else ten. -/
def radixOf : List Char → Nat × List Char
  | '0' :: 'x' :: r => (16, r)
  | '0' :: 'X' :: r => (16, r)
  | '0' :: c :: r => (8, c :: r)
  | s => (10, s)

/-- A number of an address in base eight, ten or sixteen.  No digits after the mark of the base are
zero. -/
def part? (s : List Char) : Option Nat :=
  if s.isEmpty then none
  else
    let (base, digits) := radixOf s
    digits.foldl (fun acc c => do
      let n ← acc
      let d ← Text.hexValue? c
      if d < base then some (n * base + d) else none) (some 0)

/-- The labels of a domain, without an empty one at the end. -/
def labels (name : List Char) : List (List Char) :=
  let all := Text.pieces '.' name
  if all.getLast? == some [] then all.dropLast else all

/-- Whether the last label of a domain is a number, which makes the domain an address. -/
def endsInNumber (name : List Char) : Bool :=
  match (labels name).getLast? with
  | some last => (!last.isEmpty && last.all Char.isDigit) || (part? last).isSome
  | none => false

/-- The address of up to four numbers: each but the last is an octet, and the last fills the rest. -/
def address? (name : List Char) : Option Nat := do
  let numbers ← (labels name).mapM part?
  let last ← numbers.getLast?
  let leading := numbers.dropLast
  if numbers.length ≤ 4 ∧ leading.all (· < 256) ∧ last < Nat.pow 256 (4 - leading.length) then
    return (leading.zipIdx.map fun (n, i) => n * Nat.pow 256 (3 - i)).foldl (· + ·) last
  else none

/-- An address as four numbers. -/
def quadText (address : Nat) : List Char :=
  (".".intercalate ([3, 2, 1, 0].map fun i => toString (address / Nat.pow 256 i % 256))).toList

/-! ### Addresses of eight groups -/

/-- A group of one to four hexadecimal digits. -/
def group? (s : List Char) : Option (List Nat) :=
  if 1 ≤ s.length ∧ s.length ≤ 4 then (Text.hexToNat? s).map fun n => [n] else none

/-- Groups with colons between them; where `final`, the last may be an address of four numbers. -/
def groups? (final : Bool) (s : List Char) : Option (List Nat) :=
  if s.isEmpty then some []
  else
    let all := Text.pieces ':' s
    let last := all.getLastD []
    do
      let front ← all.dropLast.mapM group?
      let back ← if final && last.contains '.' then quad? last else group? last
      return front.flatten ++ back

/-- Eight groups, of which two colons may stand for one or more zero groups. -/
def address6? (s : List Char) : Option (List Nat) :=
  match Text.cutAtText [':', ':'] s with
  | some (before, after) => do
    let front ← groups? false before
    let back ← groups? true after
    if front.length + back.length ≤ 7 then
      return front ++ List.replicate (8 - front.length - back.length) 0 ++ back
    else none
  | none => do
    let all ← groups? true s
    if all.length = 8 then some all else none

/-- Length of the run of zeros at the start of a list. -/
def zeroRun (groups : List Nat) : Nat := (groups.takeWhile (· == 0)).length

/-- The longest run of zeros, the first of several: where it starts, and its length. -/
def longestZeros (groups : List Nat) : Nat × Nat :=
  (List.range groups.length).foldl (fun best i =>
    let n := zeroRun (groups.drop i)
    if best.2 < n then (i, n) else best) (0, 0)

/-- Groups in hexadecimal with colons between them. -/
def groupsText (groups : List Nat) : List Char :=
  [':'].intercalate (groups.map Text.hexNumber)

/-- An address in its shortest form: the longest run of two or more zero groups is two colons. -/
def address6Text (groups : List Nat) : List Char :=
  let (start, length) := longestZeros groups
  if length < 2 then groupsText groups
  else groupsText (groups.take start) ++ [':', ':'] ++ groupsText (groups.drop (start + length))

/-! ### Names -/

/-- The characters that no host holds. -/
def forbidden (c : Char) : Bool :=
  c.toNat == 0 ||
    ['\t', '\n', '\r', ' ', '#', '/', ':', '<', '>', '?', '@', '[', '\\', ']', '^', '|'].contains c

/-- The address that stands between brackets, if the text is one in brackets. -/
def bracketed? (s : List Char) : Option (Except Fault Host) :=
  match s with
  | '[' :: r =>
    some <|
      if r.getLast? == some ']' then
        match address6? r.dropLast with
        | some groups => .ok (v6 groups)
        | none => .error .badAddress6
      else .error .badAddress6
  | _ => none

/-- The host of a scheme without rules of its own; an empty text is an empty name. -/
def ofOpaque (s : List Char) : Except Fault Host :=
  match bracketed? s with
  | some host => host
  | none =>
    if s.any forbidden then .error .badHostCharacter else .ok (named (percentEncode escapedAnywhere s))

/-- The host of a web address. -/
def ofDomain (s : List Char) : Except Fault Host :=
  match bracketed? s with
  | some host => host
  | none =>
    match percentDecode s with
    | .error _ => .error .badDomain
    | .ok text =>
      match Domain.toAscii? text.toList with
      | none => .error .badDomain
      | some name =>
        if name.isEmpty then .error .emptyHost
        else if endsInNumber name then
          match address? name with
          | some a => .ok (v4 a)
          | none => .error .badAddress4
        else .ok (named name)

/-- A host as it stands in a URL. -/
def text : Host → List Char
  | named name => name
  | v4 address => quadText address
  | v6 groups => '[' :: address6Text groups ++ [']']

end Host

end SqlSession.Url
