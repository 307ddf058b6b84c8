/-!
# Calendar dates and times of day

Dates are days of the proleptic Gregorian calendar counted from 2000-01-01, the epoch of the wire
format. A time of day has nanoseconds; a leap second is the last second of a minute with a billion
nanoseconds and more.
-/

namespace SqlCompose

/-- A calendar date: days after 2000-01-01. -/
structure Date where
  days : Int
  deriving DecidableEq, Repr

/-- A time of day: whole seconds after midnight and nanoseconds, at least a billion of them within a
leap second. -/
structure Time where
  seconds : Nat
  nanos : Nat
  deriving DecidableEq, Repr

/-- A date with a time of day. -/
structure Timestamp where
  date : Date
  time : Time
  deriving DecidableEq, Repr

namespace Date

/-- The days from 0000-03-01 to 2000-01-01. -/
def epochShift : Int := 730425

/-- The days before the first of a month, in a year that starts in March (0 is March). -/
def daysBeforeMonth (month : Int) : Int := (153 * month + 2) / 5

/-- The date with a year, month and day of month. -/
def ofCivil (year month day : Int) : Date :=
  let y := if month ≤ 2 then year - 1 else year
  let m := if month ≤ 2 then month + 9 else month - 3
  ⟨365 * y + y / 4 - y / 100 + y / 400 + daysBeforeMonth m + day - 1 - epochShift⟩

/-- The year, month and day of month of a date. -/
def civil (d : Date) : Int × Nat × Nat :=
  let z := d.days + epochShift
  let era := z / 146097
  let doe := z % 146097
  let yoe := (doe - doe / 1460 + doe / 36524 - doe / 146096) / 365
  let doy := doe - (365 * yoe + yoe / 4 - yoe / 100)
  let mp := (5 * doy + 2) / 153
  let day := doy - daysBeforeMonth mp + 1
  let month := if mp < 10 then mp + 3 else mp - 9
  let year := yoe + era * 400 + if month ≤ 2 then 1 else 0
  (year, month.toNat, day.toNat)

/-- The first date that can be held. -/
def earliest : Date := ofCivil (-262143) 1 1

/-- The last date that can be held. -/
def latest : Date := ofCivil 262142 12 31

/-- Whether a date can be held. -/
def inRange (d : Date) : Bool := earliest.days ≤ d.days && d.days ≤ latest.days

end Date

namespace Time

/-- The time with hours, minutes, seconds and nanoseconds. -/
def ofClock (hour minute second nanos : Nat) : Time :=
  ⟨hour * 3600 + minute * 60 + second, nanos⟩

/-- Hours, minutes, seconds and nanoseconds; the second is the last of its minute within a leap
second. -/
def clock (t : Time) : Nat × Nat × Nat × Nat :=
  (t.seconds / 3600, t.seconds / 60 % 60, t.seconds % 60, t.nanos)

end Time

namespace Calendar

/-- A number in decimal, filled with zeros to a width. -/
def padded (width n : Nat) : String :=
  let digits := toString n
  String.ofList (List.replicate (width - digits.length) '0') ++ digits

/-- A year in four digits, with a sign outside the years 0 to 9999. -/
def year (y : Int) : String :=
  if 0 ≤ y && y ≤ 9999 then padded 4 y.toNat
  else (if y < 0 then "-" else "+") ++ padded 4 y.natAbs

/-- A fraction of a second in three, six or nine digits, whichever is the first to be exact. -/
def fraction (nanos : Nat) : String :=
  if nanos = 0 then ""
  else if nanos % 1000000 = 0 then "." ++ padded 3 (nanos / 1000000)
  else if nanos % 1000 = 0 then "." ++ padded 6 (nanos / 1000)
  else "." ++ padded 9 nanos

end Calendar

/-- Year, month and day, joined by hyphens. -/
def Date.text (d : Date) : String :=
  let (y, m, day) := d.civil
  Calendar.year y ++ "-" ++ Calendar.padded 2 m ++ "-" ++ Calendar.padded 2 day

/-- Hour, minute and second, joined by colons, and the fraction; a leap second is second 60. -/
def Time.text (t : Time) : String :=
  let (h, m, s, n) := t.clock
  Calendar.padded 2 h ++ ":" ++ Calendar.padded 2 m ++ ":" ++
    Calendar.padded 2 (s + n / 1000000000) ++ Calendar.fraction (n % 1000000000)

/-- Date and time with a separator between them. -/
def Timestamp.text (t : Timestamp) (separator : String) : String :=
  t.date.text ++ separator ++ t.time.text

end SqlCompose
