/-! # Calendar

Dates of the Gregorian calendar, extended to all years in both directions, as day numbers; times of
day, in which a second that has sixty as its number is kept; and points in time, which are a date and a
time of day in Universal Time.
-/

namespace SqlSession.Calendar

/-- A date, as the number of days since the first of January 1970. -/
structure Date where
  day : Int
deriving DecidableEq, Repr

/-- A time of day.  A leap second is a thousand million nanoseconds and more after the second before
it. -/
structure Time where
  second : Nat
  nanos : Nat
deriving DecidableEq, Repr

/-- A date with a time of day. -/
structure DateTime where
  date : Date
  time : Time
deriving DecidableEq, Repr

/-- Year, month and day. -/
structure Civil where
  year : Int
  month : Nat
  day : Nat
deriving DecidableEq, Repr

def isLeapYear (y : Int) : Bool := y % 4 == 0 && (y % 100 != 0 || y % 400 == 0)

/-- Days of a month. -/
def daysIn (y : Int) (month : Nat) : Nat :=
  if month == 2 then if isLeapYear y then 29 else 28
  else if month == 4 || month == 6 || month == 9 || month == 11 then 30
  else 31

/-- The years in which dates are supported. -/
def firstYear : Int := -262143

def lastYear : Int := 262142

namespace Date

/-- The day number of a civil date.  Years are counted from March, so that the leap day comes last, in
eras of 400 years. -/
def ofCivil (c : Civil) : Date :=
  let y := if c.month ≤ 2 then c.year - 1 else c.year
  let era := y / 400
  let yearOfEra := y - era * 400
  let monthFromMarch : Int := ((c.month + 9) % 12 : Nat)
  let dayOfYear : Int := (153 * monthFromMarch + 2) / 5 + c.day - 1
  let dayOfEra := yearOfEra * 365 + yearOfEra / 4 - yearOfEra / 100 + dayOfYear
  ⟨era * 146097 + dayOfEra - 719468⟩

/-- The date of a year, a month and a day, if there is one and it is supported. -/
def ofCivil? (c : Civil) : Option Date :=
  if firstYear ≤ c.year ∧ c.year ≤ lastYear ∧ 1 ≤ c.month ∧ c.month ≤ 12 ∧ 1 ≤ c.day ∧
      c.day ≤ daysIn c.year c.month then some (ofCivil c)
  else none

/-- Year, month and day of a date. -/
def civil (d : Date) : Civil :=
  let z := d.day + 719468
  let era := z / 146097
  let dayOfEra := z - era * 146097
  let yearOfEra := (dayOfEra - dayOfEra / 1460 + dayOfEra / 36524 - dayOfEra / 146096) / 365
  let dayOfYear := dayOfEra - (365 * yearOfEra + yearOfEra / 4 - yearOfEra / 100)
  let monthFromMarch := (5 * dayOfYear + 2) / 153
  let day := dayOfYear - (153 * monthFromMarch + 2) / 5 + 1
  let month := if monthFromMarch < 10 then monthFromMarch + 3 else monthFromMarch - 9
  ⟨yearOfEra + era * 400 + (if month ≤ 2 then 1 else 0), month.toNat, day.toNat⟩

/-- A date so many days later, if it is supported. -/
def addDays? (d : Date) (n : Int) : Option Date :=
  let day := d.day + n
  if (ofCivil ⟨firstYear, 1, 1⟩).day ≤ day ∧ day ≤ (ofCivil ⟨lastYear, 12, 31⟩).day then some ⟨day⟩
  else none

end Date

namespace Time

def midnight : Time := ⟨0, 0⟩

/-- A time of day by hours, minutes and seconds, if there is one.  Nanoseconds run over into a leap
second after a fifty-ninth second only. -/
def ofParts? (hour minute second nanos : Nat) : Option Time :=
  if hour < 24 ∧ minute < 60 ∧ second < 60 ∧
      (nanos < 1000000000 ∨ second = 59 ∧ nanos < 2000000000) then
    some ⟨hour * 3600 + minute * 60 + second, nanos⟩
  else none

/-- The time of day so many microseconds after midnight, going around the clock. -/
def ofMicros (us : Int) : Time :=
  let inDay := (us % 86400000000).toNat
  ⟨inDay / 1000000, inDay % 1000000 * 1000⟩

end Time

namespace DateTime

/-- A point in time so many seconds after the start of 1970, if it is supported. -/
def ofUnix? (seconds : Int) (nanos : Nat) : Option DateTime :=
  (Date.addDays? ⟨0⟩ (seconds / 86400)).map fun d => ⟨d, ⟨(seconds % 86400).toNat, nanos⟩⟩

/-- A point in time so many seconds later, if it is supported. -/
def addSeconds? (t : DateTime) (n : Int) : Option DateTime :=
  ofUnix? (t.date.day * 86400 + t.time.second + n) t.time.nanos

/-- The point in time so many microseconds after a date's midnight, if it is supported. -/
def ofMicros? (epoch : Date) (us : Int) : Option DateTime :=
  (epoch.addDays? (us / 86400000000)).map fun d => ⟨d, Time.ofMicros us⟩

end DateTime

end SqlSession.Calendar
