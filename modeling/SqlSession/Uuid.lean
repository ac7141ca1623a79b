import SqlSession.Text.Hex
import SqlSession.Text.Search

/-! # Universally unique identifiers

Sixteen octets, written in five groups of hexadecimal digits, and read from that form, from the digits
alone, and from the form in braces or as a resource name.
-/

namespace SqlSession.Uuid

/-- The digits without the hyphens of the five groups, if the hyphens are where they belong. -/
def ungrouped? (s : List Char) : Option (List Char) :=
  let hyphens := [8, 13, 18, 23].all fun i => s[i]? = some '-'
  if s.length = 36 && hyphens then
    some (s.take 8 ++ (s.drop 9).take 4 ++ (s.drop 14).take 4 ++ (s.drop 19).take 4 ++ s.drop 24)
  else none

/-- The octets of an identifier in one of its written forms. -/
def ofText? (s : List Char) : Option Bytes :=
  let plain := match s with
    | '\x7b' :: r => if s.length = 38 ∧ r.getLast? = some '\x7d' then r.dropLast else s
    | _ => if s.length = 45 then (Text.afterPrefix "urn:uuid:".toList s).getD s else s
  if plain.length = 32 then if s.length = 32 then Text.ofHex? plain else none
  else ungrouped? plain >>= Text.ofHex?

/-- The five groups of an identifier. -/
def text (b : Bytes) : String :=
  "-".intercalate [Text.hex (b.take 4), Text.hex ((b.drop 4).take 2), Text.hex ((b.drop 6).take 2),
    Text.hex ((b.drop 8).take 2), Text.hex (b.drop 10)]

end SqlSession.Uuid
