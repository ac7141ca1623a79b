import SqlSession.Calendar.Basic
import SqlSession.Number.Numeral
import SqlSession.Text.Blank

/-! # Reading dates and times

A pattern is a list of items, each of which takes something off the start of a text; the text matches
when nothing is left.  Numbers may have blanks before them, a blank in a pattern takes any number of
them, and a fraction of a second may be missing.
-/

namespace SqlSession.Calendar

/-- An item of a pattern. -/
inductive Item where
  | year
  | month
  | day
  | hour
  | minute
  | second
  /-- A point and digits, of which the first nine count; or nothing. -/
  | fraction
  /-- White space; or nothing. -/
  | blank
  | literal (c : Char)
  /-- A sign, hours and minutes, with colons or blanks between; when `lenient`, the letter `Z` and
  hours alone are allowed too. -/
  | offset (lenient : Bool)
deriving DecidableEq, Repr

/-- What the items have read. -/
structure Fields where
  year : Option Int := none
  month : Option Nat := none
  day : Option Nat := none
  hour : Option Nat := none
  minute : Option Nat := none
  second : Option Nat := none
  nanos : Option Nat := none
  /-- Seconds that local time is ahead. -/
  offset : Option Int := none
deriving DecidableEq, Repr

/-- Between `least` and `most` digits off the start of a text. -/
def digits? (least most : Nat) (s : List Char) : Option (Nat × List Char) :=
  let taken := (s.takeWhile Char.isDigit).take most
  if taken.length < least then none
  else some (Nat.ofDigitChars 10 taken 0, s.drop taken.length)

/-- A year: four digits at most, and any number of them after a sign. -/
def year? (s : List Char) : Option (Int × List Char) :=
  match s with
  | '-' :: r => (digits? 1 r.length r).map fun (n, rest) => (-(n : Int), rest)
  | '+' :: r => (digits? 1 r.length r).map fun (n, rest) => ((n : Int), rest)
  | s => (digits? 1 4 s).map fun (n, rest) => ((n : Int), rest)

/-- Two digits at most that denote a number between two bounds. -/
def part? (low high : Nat) (s : List Char) : Option (Nat × List Char) :=
  match digits? 1 2 (Text.trimStart s) with
  | some (n, rest) => if low ≤ n ∧ n ≤ high then some (n, rest) else none
  | none => none

/-- The digits of a fraction in nanoseconds; digits after the ninth do not count. -/
def nanos? (s : List Char) : Option (Nat × List Char) :=
  let all := s.takeWhile Char.isDigit
  let kept := all.take 9
  if kept.isEmpty then none
  else some (Nat.ofDigitChars 10 kept 0 * Nat.pow 10 (9 - kept.length), s.drop all.length)

/-- The minutes of an offset. -/
def offsetMinutes? (lenient : Bool) : List Char → Option (Nat × List Char)
  | [] => if lenient then some (0, []) else none
  | [_] => none
  | a :: b :: r =>
    if a.isDigit && b.isDigit && a.toNat < 54 then some (Nat.ofDigitChars 10 [a, b] 0, r) else none

/-- An offset from Universal Time in seconds, with `separators` taking what may stand between hours and
minutes. -/
def offset? (zulu lenient : Bool) (separators : List Char → Option (List Char)) (s : List Char) :
    Option (Int × List Char) := do
  match s with
  | [] => none
  | c :: r =>
    if zulu && (c = 'Z' || c = 'z') then some (0, r)
    else
      let negative ←
        if c = '+' then some false
        else if c = '-' || c.toNat = 0x2212 then some true
        else none
      match r with
      | a :: b :: r =>
        if a.isDigit && b.isDigit then
          let (m, rest) ← offsetMinutes? lenient (← separators r)
          let seconds : Int := Nat.ofDigitChars 10 [a, b] 0 * 3600 + m * 60
          some (if negative then -seconds else seconds, rest)
        else none
      | _ => none

/-- Colons and blanks between the hours and the minutes of an offset. -/
def colonsOrBlanks (s : List Char) : Option (List Char) :=
  some (s.dropWhile fun c => c = ':' || Text.isBlank c)

/-- A colon that must be there. -/
def oneColon : List Char → Option (List Char)
  | ':' :: r => some r
  | _ => none

namespace Item

/-- Takes an item off the start of a text. -/
def take? (f : Fields) (s : List Char) : Item → Option (Fields × List Char)
  | year => (year? (Text.trimStart s)).map fun (y, r) => ({ f with year := some y }, r)
  | month => (part? 1 12 s).map fun (n, r) => ({ f with month := some n }, r)
  | day => (part? 1 31 s).map fun (n, r) => ({ f with day := some n }, r)
  | hour => (part? 0 23 s).map fun (n, r) => ({ f with hour := some n }, r)
  | minute => (part? 0 59 s).map fun (n, r) => ({ f with minute := some n }, r)
  | second => (part? 0 60 s).map fun (n, r) => ({ f with second := some n }, r)
  | fraction =>
    match s with
    | '.' :: r => (nanos? r).map fun (n, rest) => ({ f with nanos := some n }, rest)
    | s => some (f, s)
  | blank => some (f, Text.trimStart s)
  | literal c =>
    match s with
    | d :: r => if d = c then some (f, r) else none
    | [] => none
  | offset lenient =>
    (offset? lenient lenient colonsOrBlanks (Text.trimStart s)).map fun (o, r) =>
      ({ f with offset := some o }, r)

end Item

/-- Matches a text with a pattern. -/
def fields? (f : Fields) : List Item → List Char → Option Fields
  | [], s => if s.isEmpty then some f else none
  | item :: later, s =>
    match item.take? f s with
    | some (g, rest) => fields? g later rest
    | none => none

namespace Fields

/-- The date that has been read. -/
def date? (f : Fields) : Option Date := do
  Date.ofCivil? ⟨← f.year, ← f.month, ← f.day⟩

/-- The time of day that has been read; the sixtieth second is a leap second. -/
def time? (f : Fields) : Option Time := do
  let hour ← f.hour
  let minute ← f.minute
  let second := f.second.getD 0
  let nanos := f.nanos.getD 0
  let inMinute := if second = 60 then (59, nanos + 1000000000) else (second, nanos)
  return ⟨hour * 3600 + minute * 60 + inMinute.1, inMinute.2⟩

/-- Date and time of day as they stand, whatever the offset. -/
def local? (f : Fields) : Option DateTime := do
  return ⟨← f.date?, ← f.time?⟩

/-- The point in time, if an offset has been read. -/
def instant? (f : Fields) : Option DateTime := do
  let o ← f.offset
  if -86400 < o ∧ o < 86400 then (← f.local?).addSeconds? (-o) else none

end Fields

/-- Year, month and day. -/
def datePattern : List Item := [.year, .literal '-', .month, .literal '-', .day]

/-- Hours and minutes. -/
def minutePattern : List Item := [.hour, .literal ':', .minute]

/-- Hours, minutes and seconds. -/
def secondPattern : List Item := minutePattern ++ [.literal ':', .second]

/-- Hours, minutes, seconds and a fraction. -/
def timePattern : List Item := secondPattern ++ [.fraction]

/-- A date and a time of day. -/
def dateTimePattern : List Item := datePattern ++ .blank :: timePattern

/-- The date of a text in a pattern. -/
def dateOf? (pattern : List Item) (s : List Char) : Option Date :=
  fields? {} pattern s >>= Fields.date?

/-- The time of day of a text in a pattern. -/
def timeOf? (pattern : List Item) (s : List Char) : Option Time :=
  fields? {} pattern s >>= Fields.time?

/-- Date and time of day of a text in a pattern. -/
def localOf? (pattern : List Item) (s : List Char) : Option DateTime :=
  fields? {} pattern s >>= Fields.local?

/-- The point in time of a text in a pattern with an offset. -/
def instantOf? (pattern : List Item) (s : List Char) : Option DateTime :=
  fields? {} pattern s >>= Fields.instant?

/-- Exactly so many digits. -/
def fixed? (width : Nat) (s : List Char) : Option (Nat × List Char) := digits? width width s

/-- The point in time of a text in the Internet format: all numbers in full, and an offset. -/
def internetTime? (s : List Char) : Option DateTime := do
  let (y, s) ← fixed? 4 s
  let s ← Item.take? {} s (.literal '-')
  let (mo, s) ← fixed? 2 s.2
  let s ← Item.take? {} s (.literal '-')
  let (d, s) ← fixed? 2 s.2
  let s ← match s with
    | c :: r => if c = 'T' || c = 't' || c = ' ' then some r else none
    | [] => none
  let (h, s) ← fixed? 2 s
  let s ← oneColon s
  let (mi, s) ← fixed? 2 s
  let s ← oneColon s
  let (sec, s) ← fixed? 2 s
  let (f, s) ← Item.fraction.take? {} s
  let (o, rest) ← offset? true false oneColon s
  if rest.isEmpty && mo ≤ 12 && d ≤ 31 && h ≤ 23 && mi ≤ 59 && sec ≤ 60 then
    Fields.instant? { f with
      year := some (y : Int), month := some mo, day := some d, hour := some h, minute := some mi,
      second := some sec, offset := some o }
  else none

end SqlSession.Calendar
