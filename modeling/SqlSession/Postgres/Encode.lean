import SqlSession.Json.Printer
import SqlSession.Param
import SqlSession.Postgres.Types

/-! # Parameters in PostgreSQL's binary form

Each parameter has a type, which is declared when its statement is prepared, and a binary form, in
which it is bound.
-/

namespace SqlSession.Postgres

/-- A number in eight octets, high octet first. -/
def bigEndian64 (n : Nat) : Bytes :=
  [56, 48, 40, 32, 24, 16, 8, 0].map fun shift => UInt8.ofNat (n / Nat.pow 2 shift)

/-- The declared type of a parameter. -/
def oidOf : Param → Oid
  | .null => .text
  | .bool _ => .bool
  | .int _ => .int8
  | .float _ => .float8
  | .string _ => .text
  | .bytes _ => .bytea
  | .json _ => .jsonb

/-- The binary form of a parameter; a null has none. -/
def encode? : Param → Option Bytes
  | .null => none
  | .bool b => some [if b then 1 else 0]
  | .int i => some (bigEndian64 i.toUInt64.toNat)
  | .float x => some (bigEndian64 x.bits.toNat)
  | .string s => some (Text.utf8 s)
  | .bytes b => some b
  | .json j => some (1 :: Text.utf8 j.compact)

end SqlSession.Postgres
