import SqlSession.Calendar.Pattern
import SqlSession.Calendar.Text
import SqlSession.Json.Parser
import SqlSession.Json.Printer
import SqlSession.Mysql.Types
import SqlSession.TypeCategory
import SqlSession.Value

/-! # Values of MySQL columns

A value arrives in text or in binary form.  The category of the column's type names the decoders to
try, and after them text and octets are tried, which is how strings of octets that are called text are
read.  Integers try the narrowest word first, which changes no value.
-/

namespace SqlSession.Mysql

/-- The two forms of values on the wire. -/
inductive Format where
  | text
  | binary
deriving DecidableEq, Repr

/-- A value as it arrives.  The content of a binary date or time is without its length octet. -/
structure Cell where
  type : TypeInfo
  format : Format
  content : Bytes
deriving DecidableEq, Repr

/-- Octets as a number, low octet first. -/
def littleEndian : Bytes → Nat
  | [] => 0
  | b :: r => b.toNat + 256 * littleEndian r

/-- Octets as a signed number, low octet first. -/
def signedLittleEndian (b : Bytes) : Int :=
  let n := littleEndian b
  if 2 * n < Nat.pow 256 b.length then n else (n : Int) - (Nat.pow 256 b.length : Nat)

namespace Cell

variable (c : Cell)

/-- The content as text. -/
def asText? : Option (List Char) := (Text.ofUtf8? c.content).map String.toList

/-- Dates whose first octet is zero stand for null: in binary form those without any parts. -/
def isNull : Bool :=
  match c.type.type with
  | .date | .timestamp | .datetime =>
    match c.format with
    | .binary => c.content.isEmpty
    | .text => c.content.head? = some 0
  | _ => false

/-- Whether the content is one to eight octets long, as integers are. -/
def holdsInteger : Bool := 1 ≤ c.content.length && c.content.length ≤ 8

/-- A signed integer. -/
def signed? : Option Int :=
  match c.format with
  | .text => c.asText?.bind fun s => (Number.int64? s).map Int64.toInt
  | .binary => if c.holdsInteger then some (signedLittleEndian c.content) else none

/-- An unsigned integer. -/
def unsigned? : Option Nat :=
  match c.format with
  | .text => c.asText?.bind fun s => (Number.uint64? s).map UInt64.toNat
  | .binary => if c.holdsInteger then some (littleEndian c.content) else none

/-- A signed integer of so many bits. -/
def signedWord? (bits : Nat) : Option Value :=
  c.signed?.bind fun i =>
    if Number.fitsSigned bits i then (Number.toInt64? i).map Value.int else none

/-- An unsigned integer of so many bits. -/
def unsignedWord? (bits : Nat) : Option Value :=
  c.unsigned?.bind fun n =>
    if Number.fitsUnsigned bits n then (Number.toUInt64? n).map Value.uint else none

/-- A value of an unsigned integer type. -/
def unsignedInteger? : Option Value :=
  if c.type.isInteger && c.type.unsigned then
    c.unsignedWord? 8 <|> c.unsignedWord? 16 <|> c.unsignedWord? 32 <|> c.unsignedWord? 64
  else none

/-- A value of an integer type. -/
def integer? : Option Value :=
  let signed :=
    if c.type.isInteger && !c.type.unsigned then
      c.signedWord? 8 <|> c.signedWord? 16 <|> c.signedWord? 32 <|> c.signedWord? 64
    else none
  signed <|> c.unsignedInteger?

/-- A truth value is a small integer that is not zero. -/
def boolean? : Option Value :=
  if c.type.isInteger then
    c.signed?.bind fun i => if Number.fitsSigned 8 i then some (.bool (i != 0)) else none
  else none

/-- A floating-point number in single or double precision. -/
def float? : Option Value :=
  if c.type.type = .float ∨ c.type.type = .double then
    Option.map Value.float <|
      match c.format with
      | .text => c.asText? >>= Double.ofText?
      | .binary =>
        if c.content.length = 4 then some (Double.ofSingle (littleEndian c.content))
        else if c.content.length = 8 then some ⟨UInt64.ofNat (littleEndian c.content)⟩
        else none
  else none

/-- An exact numeric, as it is written. -/
def decimal? : Option Value :=
  if c.type.type = .decimal ∨ c.type.type = .newDecimal then
    c.asText?.map fun s => .text (String.ofList s)
  else none

open Calendar in
/-- The date at the start of a binary value: a year in two octets, a month and a day. -/
def binaryDate? : Bytes → Option (Date × Bytes)
  | a :: b :: month :: day :: rest =>
    (Date.ofCivil? ⟨(littleEndian [a, b] : Nat), month.toNat, day.toNat⟩).map fun d => (d, rest)
  | _ => none

open Calendar in
/-- The time of day after a binary date: hours, minutes, seconds and microseconds. -/
def binaryClock? : Bytes → Option Time
  | [] => some .midnight
  | hour :: minute :: second :: micros =>
    Time.ofParts? hour.toNat minute.toNat second.toNat (littleEndian micros * 1000)
  | _ => none

open Calendar in
/-- A time as a span: a sign, days, hours, minutes, seconds and microseconds.  Only those of less than
a day that are not negative are times of day. -/
def binarySpan? : Bytes → Option Time
  | [] => some .midnight
  | sign :: d1 :: d2 :: d3 :: d4 :: hour :: minute :: second :: micros =>
    let us := littleEndian micros
    if sign = 0 ∧ (micros.length = 0 ∨ micros.length = 4) ∧ us < 1000000 then
      Time.ofParts? (littleEndian [d1, d2, d3, d4] * 24 + hour.toNat) minute.toNat second.toNat
        (us * 1000)
    else none
  | _ => none

open Calendar in
/-- A point in time, in Universal Time. -/
def timestamp? : Option Value :=
  if c.type.type = .datetime ∨ c.type.type = .timestamp then
    Option.map (fun t => .text t.internetText) <|
      match c.format with
      | .binary => do
        let (d, rest) ← binaryDate? c.content
        return ⟨d, ← binaryClock? rest⟩
      | .text => c.asText? >>= localOf? dateTimePattern
  else none

open Calendar in
def date? : Option Value :=
  if c.type.type = .date then
    Option.map (fun d => .text d.text) <|
      match c.format with
      | .binary => (binaryDate? c.content).map Prod.fst
      | .text => c.asText? >>= dateOf? datePattern
  else none

open Calendar in
def time? : Option Value :=
  if c.type.type = .time then
    Option.map (fun t => .text t.text) <|
      match c.format with
      | .binary => binarySpan? c.content
      | .text => c.asText? >>= timeOf? timePattern
  else none

/-- JSON in compact form. -/
def json? : Option Value :=
  if c.type.type = .json ∨ c.type.isString then do
    let j ← Text.ofUtf8? c.content >>= Json.parse
    return .text j.canonical.compact
  else none

/-- Text of a type that is not marked as one of octets. -/
def text? : Option Value :=
  if c.type.isString && !c.type.binary then c.asText?.map fun s => .text (String.ofList s)
  else none

/-- Octets. -/
def bytes? : Option Value := if c.type.isString then some (.bytes c.content) else none

/-- The decoders of a category. -/
def typed? : TypeCategory → Option Value
  | .decimal => c.decimal?
  | .integer => c.integer?
  | .unsignedInteger => c.unsignedInteger?
  | .boolean => c.boolean?
  | .float => c.float?
  | .temporal => c.timestamp? <|> c.date? <|> c.time?
  | .binary => c.bytes?
  | .json => c.json?
  | .uuid => none
  | .unknown => none

/-- The value, if any decoder reads it. -/
def decode? : Option Value :=
  c.typed? (.ofTypeName c.type.name .mysql) <|> c.text? <|> c.bytes?

end Cell

end SqlSession.Mysql
