import SqlSession.Calendar.Pattern
import SqlSession.Calendar.Text
import SqlSession.Failure
import SqlSession.Sqlite.Affinity
import SqlSession.TypeCategory

/-! # Values of SQLite columns

The type name of a column picks the decoders to try first; each reads values of the storage classes
that suit it.  After them the storage class alone decides, so that every value is read.
-/

namespace SqlSession.Sqlite

open Calendar

/-- The type name of a column: of the declared types those that are known have a name, and of the
others the storage class of the value. -/
def columnTypeName (declared : Option String) (v : Stored) : String :=
  let storage := match v with
    | .null => "NULL"
    | .integer _ => "INTEGER"
    | .real _ => "REAL"
    | .text _ => "TEXT"
    | .blob _ => "BLOB"
  match declared with
  | none => storage
  | some d =>
    let lower := Text.lowerAscii d
    let has (w : String) : Bool := Text.mentions lower w
    if lower = "boolean" ∨ lower = "bool" then "BOOLEAN"
    else if lower = "date" then "DATE"
    else if lower = "time" then "TIME"
    else if lower = "datetime" ∨ lower = "timestamp" then "DATETIME"
    else if has "int" then "INTEGER"
    else if has "char" || has "clob" || has "text" then "TEXT"
    else if has "blob" then "BLOB"
    else if has "real" || has "floa" || has "doub" then "REAL"
    else storage

/-! ### Points in time -/

/-- The patterns of a date with a time of day, in the order in which they are tried. -/
def dateTimePatterns : List (List Item) :=
  let minutes := minutePattern
  let clock := timePattern
  let zulu : List Item := [.literal 'Z']
  let zone : List Item := [.offset false]
  let withBlank (p : List Item) : List Item := datePattern ++ .blank :: p
  let withLetter (p : List Item) : List Item := datePattern ++ .literal 'T' :: p
  [withBlank clock, withBlank minutes, withBlank (minutes ++ zulu), withBlank (minutes ++ zone),
    withBlank (clock ++ zulu), withBlank (clock ++ zone), withLetter minutes,
    withLetter (minutes ++ zulu), withLetter (minutes ++ zone), withLetter clock,
    withLetter (clock ++ zulu), withLetter (clock ++ zone)]

/-- The patterns of a time of day, in the order in which they are tried. -/
def timePatterns : List (List Item) :=
  let zulu : List Item := [.literal 'Z']
  let zone : List Item := [.offset false]
  [secondPattern ++ [.literal '.', .literal 'f'], timePattern, minutePattern, minutePattern ++ zulu,
    timePattern ++ zulu, minutePattern ++ zone, timePattern ++ zone]

/-- The point in time of a text: in the Internet format, or in one of the patterns, which without an
offset is in Universal Time. -/
def dateTimeOfText? (s : List Char) : Option DateTime :=
  internetTime? s <|> dateTimePatterns.findSome? fun p => instantOf? p s <|> localOf? p s

/-- The Julian day on which 1970 starts, and the seconds of a day. -/
def epochJulianDay : Double := Double.ofQuotient false 4881175 2

def secondsPerDay : Double := Double.ofInt 86400

/-- The point in time of a Julian day. -/
def dateTimeOfJulianDay? (x : Double) : Option DateTime := do
  let stamp ← (← x.sub? epochJulianDay).mul? secondsPerDay
  let seconds ← stamp.truncated?
  let nanos ← ((← stamp.fraction?).mul? (Double.ofInt 1000000000)) >>= Double.truncated?
  DateTime.ofUnix? seconds nanos.natAbs

/-- The point in time of a stored value: a text, seconds since the start of 1970, or a Julian day. -/
def dateTime? : Stored → Option DateTime
  | .text b => Text.ofUtf8? b >>= fun s => dateTimeOfText? s.toList
  | .integer i => DateTime.ofUnix? i.toInt 0
  | .real x => dateTimeOfJulianDay? x
  | _ => none

/-- A temporal value: a point in time, a date, or a time of day. -/
def temporal? (v : Stored) : Option Value :=
  let text : Option (List Char) := match v with
    | .text b => (Text.ofUtf8? b).map String.toList
    | _ => none
  ((dateTime? v).map fun t => .text t.internetText) <|>
    ((text >>= dateOf? datePattern).map fun d => .text d.text) <|>
    ((text >>= fun s => timePatterns.findSome? fun p => timeOf? p s).map fun t => .text t.text)

/-! ### Values -/

def integer? : Stored → Option Value
  | .integer i => some (.int i)
  | _ => none

def real? : Stored → Option Value
  | .real x => some (.float x)
  | _ => none

def text? : Stored → Option Value
  | .text b => (Text.ofUtf8? b).map Value.text
  | _ => none

def bytes? : Stored → Option Value
  | .text b => some (.bytes b)
  | .blob b => some (.bytes b)
  | _ => none

def boolean? : Stored → Option Value
  | .integer i => some (.bool (i != 0))
  | _ => none

/-- The decoders of a category. -/
def typed? (v : Stored) : TypeCategory → Option Value
  | .integer => integer? v
  | .unsignedInteger => integer? v
  | .boolean => boolean? v
  | .float => real? v
  | .decimal => real? v
  | .temporal => temporal? v
  | .binary => bytes? v
  | _ => none

/-- A value by its storage class alone. -/
def dynamic? (v : Stored) : Option Value := text? v <|> integer? v <|> real? v <|> bytes? v

/-- The value of a column of a type name, or the failure to read it. -/
def value (column typeName : String) : Stored → Except Failure Value
  | .null => .ok .null
  | v =>
    match typed? v (.ofTypeName typeName .sqlite) <|> dynamic? v with
    | some w => .ok w
    | none =>
      .error (.invalidType column "decodable value" ("undecodable " ++ typeName))

end SqlSession.Sqlite
