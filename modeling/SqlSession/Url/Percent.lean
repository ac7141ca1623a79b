import SqlSession.Text.Hex
import SqlSession.Text.Search

/-! # Percent-encoding

A character that a part of a URL must not hold stands there as its UTF-8 octets, each a percent sign
and two upper-case digits.  Every part has its own set of such characters.  A percent sign itself is
in none of the sets: text that is percent-encoded already stays as it is.
-/

namespace SqlSession.Url

/-! ### The sets -/

/-- Controls, and everything beyond ASCII.  No part of a URL holds them. -/
def escapedAnywhere (c : Char) : Bool := c.toNat < 0x20 || 0x7F ≤ c.toNat

/-- The characters that a fragment does not hold. -/
def escapedInFragment (c : Char) : Bool := escapedAnywhere c || [' ', '"', '<', '>', '`'].contains c

/-- The characters that a path segment does not hold. -/
def escapedInPath (c : Char) : Bool := escapedInFragment c || ['#', '?', '\x7b', '\x7d'].contains c

/-- The characters that a user or a password does not hold. -/
def escapedInLogin (c : Char) : Bool :=
  escapedInPath c || ['/', ':', ';', '=', '@', '[', '\\', ']', '^', '|'].contains c

/-- The characters that a query does not hold. -/
def escapedInQuery (c : Char) : Bool := escapedAnywhere c || [' ', '"', '#', '<', '>'].contains c

/-- The characters that the query of a web address does not hold. -/
def escapedInWebQuery (c : Char) : Bool := escapedInQuery c || c == '\''

/-! ### Writing and reading -/

/-- An octet as a percent sign and two digits. -/
def percentOctet (b : UInt8) : List Char :=
  ['%', Text.hexDigitUpper (b.toNat / 16), Text.hexDigitUpper (b.toNat % 16)]

/-- A character as it stands in a part of a URL. -/
def percentChar (escaped : Char → Bool) (c : Char) : List Char :=
  if escaped c then (Text.utf8Char c).flatMap percentOctet else [c]

/-- A text as it stands in a part of a URL that does not hold the `escaped` characters. -/
def percentEncode (escaped : Char → Bool) (s : List Char) : List Char := s.flatMap (percentChar escaped)

/-- The octet that a percent sign and the next two characters stand for. -/
def percentOctet? : List Char → Option UInt8
  | '%' :: a :: b :: _ => do
    let high ← Text.hexValue? a
    let low ← Text.hexValue? b
    return UInt8.ofNat (high * 16 + low)
  | _ => none

/-- The octets of a text, of which the first `skip` characters belong to an escape already read. -/
def percentOctetsFrom : Nat → List Char → Bytes
  | _, [] => []
  | skip + 1, _ :: r => percentOctetsFrom skip r
  | 0, c :: r =>
    match percentOctet? (c :: r) with
    | some b => b :: percentOctetsFrom 2 r
    | none => Text.utf8Char c ++ percentOctetsFrom 0 r

/-- The octets that a part of a URL stands for.  A percent sign without two digits after it stands for
itself. -/
def percentOctets (s : List Char) : Bytes := percentOctetsFrom 0 s

/-- The text that a part of a URL stands for, if its octets are UTF-8. -/
def percentDecode (s : List Char) : Except Text.Utf8Fault String := Text.ofUtf8 (percentOctets s)

/-! ### Form data -/

/-- A name or a value of form data: a plus sign stands for a space, and octets that are not UTF-8 for
a replacement character. -/
def formText (s : List Char) : String :=
  Text.ofUtf8Lossy (percentOctets (s.map fun c => if c = '+' then ' ' else c))

/-- The name and value that a piece of form data holds. -/
def formPair (piece : List Char) : String × String :=
  match Text.cutAt '=' piece with
  | some (name, value) => (formText name, formText value)
  | none => (formText piece, "")

/-- The names and values of form data, empty pieces left out. -/
def formPairs (s : List Char) : List (String × String) :=
  ((Text.pieces '&' s).filter fun p => !p.isEmpty).map formPair

end SqlSession.Url
