import SqlSession.Calendar.Pattern
import SqlSession.Calendar.Text
import SqlSession.Json.Parser
import SqlSession.Json.Printer
import SqlSession.Postgres.Numeric
import SqlSession.Postgres.Types
import SqlSession.TypeCategory
import SqlSession.Uuid
import SqlSession.Value

/-! # Values of PostgreSQL columns

A value arrives in text or in binary form.  The category of the column's type names the decoders to
try; each decoder reads the types that it is made for and no other, and after them text and octets are
tried.  Exact numerics and temporal values become text, so that nothing is lost.
-/

namespace SqlSession.Postgres

/-- The two forms of values on the wire. -/
inductive Format where
  | text
  | binary
deriving DecidableEq, Repr

/-- A value that is not null. -/
structure Cell where
  type : Oid
  format : Format
  content : Bytes
deriving DecidableEq, Repr

/-- Octets as a number, high octet first. -/
def bigEndian (b : Bytes) : Nat := b.foldl (fun n x => n * 256 + x.toNat) 0

/-- Octets as a signed number, high octet first. -/
def signedBigEndian (b : Bytes) : Int :=
  let n := bigEndian b
  if 2 * n < Nat.pow 256 b.length then n else (n : Int) - (Nat.pow 256 b.length : Nat)

/-- The day from which binary dates and times are counted. -/
def epoch : Calendar.Date := Calendar.Date.ofCivil ⟨2000, 1, 1⟩

namespace Cell

variable (c : Cell)

/-- The content as text. -/
def asText? : Option (List Char) := (Text.ofUtf8? c.content).map String.toList

/-- The content if the column is of one of some types. -/
def whenType (types : List Oid) (read : Option α) : Option α := if c.type ∈ types then read else none

/-- An integer, from decimal text or from one to eight octets. -/
def integer? : Option Int :=
  match c.format with
  | .text => c.asText?.bind fun s => (Number.int64? s).map Int64.toInt
  | .binary =>
    if 1 ≤ c.content.length ∧ c.content.length ≤ 8 then some (signedBigEndian c.content) else none

/-- An integer of a type with so many bits. -/
def sized? (type : Oid) (bits : Nat) : Option Value :=
  c.whenType [type] <| c.integer?.bind fun i =>
    if Number.fitsSigned bits i then (Number.toInt64? i).map Value.int else none

def integerValue? : Option Value :=
  c.sized? .int2 16 <|> c.sized? .int4 32 <|> c.sized? .int8 64

def boolean? : Option Value :=
  c.whenType [.bool] <|
    match c.format with
    | .text =>
      if c.content = Text.utf8 "t" then some (.bool true)
      else if c.content = Text.utf8 "f" then some (.bool false)
      else none
    | .binary => c.content.head?.map fun b => .bool (b != 0)

def float? : Option Value :=
  match c.format with
  | .text =>
    c.whenType [.float8] (c.asText? >>= Double.ofText?) |>.map Value.float |>.or
      (c.whenType [.float4] (c.asText? >>= Double.ofSingleText?) |>.map Value.float)
  | .binary =>
    if c.type = .float8 ∧ 8 ≤ c.content.length then
      some (.float ⟨UInt64.ofNat (bigEndian (c.content.take 8))⟩)
    else if c.type = .float4 ∧ 4 ≤ c.content.length then
      some (.float (Double.ofSingle (bigEndian (c.content.take 4))))
    else none

/-- The exact numerics, and whatever else has one in its name. -/
def numeric? : Option Value :=
  let name := Text.lower (Oid.typeName c.type)
  if Text.hasInfix "numeric".toList name || Text.hasInfix "decimal".toList name then
    match c.format with
    | .text => c.asText?.map fun s => .text (String.ofList s)
    | .binary => (Numeric.ofBytes? c.content).map fun n => .text n.text
  else none

open Calendar in
/-- A point in time, as microseconds from the epoch or as text. -/
def timestamp? : Option Value :=
  match c.format with
  | .binary => do
    let t ← DateTime.ofMicros? epoch (← c.integer?)
    if c.type = .timestamptz then some (.text t.internetText)
    else if c.type = .timestamp then some (.text t.text)
    else none
  | .text => do
    let s ← c.asText?
    if c.type = .timestamptz then
      let pattern := if '+' ∈ s ∨ '-' ∈ s then dateTimePattern ++ [.offset true] else dateTimePattern
      (instantOf? pattern s).map fun t => .text t.internetText
    else if c.type = .timestamp then
      let pattern := if '+' ∈ s then dateTimePattern ++ [.offset true] else dateTimePattern
      (localOf? pattern s).map fun t => .text t.text
    else none

open Calendar in
/-- A date, as days from the epoch or as text. -/
def date? : Option Value :=
  c.whenType [.date] <| Option.map (fun d => .text d.text) <|
    match c.format with
    | .binary =>
      c.integer?.bind fun i => if Number.fitsSigned 32 i then epoch.addDays? i else none
    | .text => c.asText? >>= dateOf? datePattern

open Calendar in
/-- A time of day, as microseconds from midnight or as text. -/
def time? : Option Value :=
  c.whenType [.time] <| Option.map (fun t => .text t.text) <|
    match c.format with
    | .binary => c.integer?.map Time.ofMicros
    | .text => c.asText? >>= timeOf? timePattern

def temporal? : Option Value := c.timestamp? <|> c.date? <|> c.time?

/-- JSON in compact form; the binary form of one of the two types has a version octet. -/
def json? : Option Value :=
  c.whenType [.json, .jsonb] <| do
    let body ←
      if c.format = .binary ∧ c.type = .jsonb then
        match c.content with
        | 1 :: r => some r
        | _ => none
      else some c.content
    let j ← Text.ofUtf8? body >>= Json.parse
    return .text j.canonical.compact

def uuid? : Option Value :=
  c.whenType [.uuid] <| Option.map (fun b => .text (Uuid.text b)) <|
    match c.format with
    | .binary => if c.content.length = 16 then some c.content else none
    | .text => c.asText? >>= Uuid.ofText?

def text? : Option Value :=
  c.whenType Oid.texts (c.asText?.map fun s => .text (String.ofList s))

/-- Octets; as text they are hexadecimal digits after a backslash and an `x`. -/
def bytes? : Option Value :=
  c.whenType [.bytea] <| Option.map Value.bytes <|
    match c.format with
    | .binary => some c.content
    | .text => c.asText?.bind fun s => Text.afterPrefix ['\\', 'x'] s >>= Text.ofHex?

/-- The decoders of a category. -/
def typed? : TypeCategory → Option Value
  | .decimal => c.numeric?
  | .integer => c.integerValue?
  | .unsignedInteger => c.integerValue?
  | .boolean => c.boolean?
  | .float => c.float?
  | .temporal => c.temporal?
  | .binary => c.bytes?
  | .json => c.json?
  | .uuid => c.uuid?
  | .unknown => none

/-- The value, if any decoder reads it. -/
def decode? : Option Value :=
  c.typed? (.ofTypeName (Oid.typeName c.type) .postgres) <|> c.text? <|> c.bytes?

end Cell

end SqlSession.Postgres
