import SqlSession.Calendar.Basic

/-! # Writing dates and times

A year has four digits, and a sign and at least four when it is negative or has more.  The fraction of
a second is written to the millisecond, microsecond or nanosecond, whichever is enough, and not at all
when it is zero.
-/

namespace SqlSession.Calendar

/-- A number in at least so many digits. -/
def padded (width n : Nat) : String :=
  let digits := Nat.toDigits 10 n
  String.ofList (List.replicate (width - digits.length) '0' ++ digits)

/-- A year. -/
def yearText (y : Int) : String :=
  if 0 ≤ y ∧ y ≤ 9999 then padded 4 y.toNat
  else (if y < 0 then "-" else "+") ++ padded 4 y.natAbs

/-- The fraction of a second. -/
def fractionText (nanos : Nat) : String :=
  if nanos = 0 then ""
  else if nanos % 1000000 = 0 then "." ++ padded 3 (nanos / 1000000)
  else if nanos % 1000 = 0 then "." ++ padded 6 (nanos / 1000)
  else "." ++ padded 9 nanos

/-- Year, month and day with hyphens between. -/
def Date.text (d : Date) : String :=
  let c := d.civil
  yearText c.year ++ "-" ++ padded 2 c.month ++ "-" ++ padded 2 c.day

/-- Hours, minutes and seconds with colons between, and the fraction. -/
def Time.text (t : Time) : String :=
  padded 2 (t.second / 3600) ++ ":" ++ padded 2 (t.second / 60 % 60) ++ ":" ++
    padded 2 (t.second % 60 + t.nanos / 1000000000) ++ fractionText (t.nanos % 1000000000)

/-- Date and time of day with a space between. -/
def DateTime.text (t : DateTime) : String := t.date.text ++ " " ++ t.time.text

/-- Date and time of day in the Internet format, in Universal Time. -/
def DateTime.internetText (t : DateTime) : String := t.date.text ++ "T" ++ t.time.text ++ "+00:00"

end SqlSession.Calendar
