import SqlSession.Json.Printer
import SqlSession.Param

/-! # Parameters in MySQL's binary form

The parameters of a prepared statement go out as a bitmap of the nulls, the types, and the values of
those that are not null, one after the other.
-/

namespace SqlSession.Mysql

/-- A number in so many octets, low octet first. -/
def littleEndianOctets : Nat → Nat → Bytes
  | 0, _ => []
  | width + 1, n => UInt8.ofNat n :: littleEndianOctets width (n / 256)

/-- Octets after their number, which takes one, three, four or nine octets. -/
def counted (b : Bytes) : Bytes :=
  let n := b.length
  if n < 251 then UInt8.ofNat n :: b
  else if n < Nat.pow 2 16 then 0xfc :: littleEndianOctets 2 n ++ b
  else if n < Nat.pow 2 24 then 0xfd :: littleEndianOctets 3 n ++ b
  else 0xfe :: littleEndianOctets 8 n ++ b

/-- The type of a parameter and the octet that says whether it is unsigned. -/
def typeOf : Param → Bytes
  | .null => [0xfd, 0]
  | .bool _ => [1, 0x80]
  | .int _ => [8, 0]
  | .float _ => [5, 0]
  | .string _ => [0xfd, 0]
  | .bytes _ => [0xfc, 0]
  | .json _ => [0xfe, 0]

/-- The value of a parameter.  JSON always has its length in nine octets. -/
def valueOf : Param → Bytes
  | .null => []
  | .bool b => [if b then 1 else 0]
  | .int i => littleEndianOctets 8 i.toUInt64.toNat
  | .float x => littleEndianOctets 8 x.bits.toNat
  | .string s => counted (Text.utf8 s)
  | .bytes b => counted b
  | .json j =>
    let text := Text.utf8 j.compact
    0xfe :: littleEndianOctets 8 text.length ++ text

/-- The number whose binary digits, low one first, are the given ones. -/
def bitsToNat : List Bool → Nat
  | [] => 0
  | b :: r => (if b then 1 else 0) + 2 * bitsToNat r

/-- One bit for each parameter, the first in the lowest place of the first octet. -/
def nullBitmap (params : List Param) : Bytes :=
  littleEndianOctets ((params.length + 7) / 8) (bitsToNat (params.map Param.isNull))

end SqlSession.Mysql
