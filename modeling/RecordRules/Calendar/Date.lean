/-!
# Dates and times

Dates of the proleptic Gregorian calendar from the year 1 to the year 9999, times of day to the
microsecond, and their combination with an optional offset from universal time. A `Date` exists in
the calendar: its month and day are within bounds by construction.
-/

namespace RecordRules

/-- A number in decimal digits, padded with zeros on the left. -/
def padded (width n : Nat) : String :=
  let digits := n.repr
  String.ofList (List.replicate (width - digits.length) '0') ++ digits

namespace Date

/-- Every fourth year is a leap year, of the full centuries only every fourth. -/
def isLeap (year : Nat) : Bool := year % 4 == 0 && (year % 100 != 0 || year % 400 == 0)

/-- The number of days of a month. -/
def monthLength (year month : Nat) : Nat :=
  if month = 2 then (if isLeap year then 29 else 28)
  else if month = 4 ∨ month = 6 ∨ month = 9 ∨ month = 11 then 30
  else 31

/-- The year, month and day name a date of the calendar. -/
def exists? (year month day : Nat) : Bool :=
  1 ≤ year && year ≤ 9999 && 1 ≤ month && month ≤ 12 && 1 ≤ day && day ≤ monthLength year month

end Date

/-- A date of the calendar. -/
structure Date where
  year : Nat
  month : Nat
  day : Nat
  valid : Date.exists? year month day = true
  deriving DecidableEq

namespace Date

/-- The date with the given parts, if there is one. -/
def of? (year month day : Nat) : Option Date :=
  if h : exists? year month day = true then some ⟨year, month, day, h⟩ else none

/-- The number of days before a month within its year. -/
def daysBeforeMonth (year month : Nat) : Nat :=
  (List.range (month - 1)).foldl (fun days m => days + monthLength year (m + 1)) 0

/-- The number of days before a year, counted from the first day of the year 1. -/
def daysBeforeYear (year : Nat) : Nat :=
  let y := year - 1
  y * 365 + y / 4 - y / 100 + y / 400

/-- The place of a date within its year, from 1. -/
def dayOfYear (d : Date) : Nat := daysBeforeMonth d.year d.month + d.day

/-- The place of a date in the calendar: the first day of the year 1 has number 1. -/
def number (d : Date) : Nat := daysBeforeYear d.year + d.dayOfYear

/-- The place of a date in its week: Monday is 0, Sunday 6. -/
def weekday (d : Date) : Nat := (d.number + 6) % 7

/-- The month and day at a place within a year, counted from 1, looking from a month on. -/
def monthDayFrom (year : Nat) : List Nat → Nat → Option (Nat × Nat)
  | [], _ => none
  | month :: rest, day =>
    if day ≤ monthLength year month then some (month, day)
    else monthDayFrom year rest (day - monthLength year month)

/-- The date at a place within a year. -/
def ofDayOfYear? (year day : Nat) : Option Date :=
  (monthDayFrom year [1, 2, 3, 4, 5, 6, 7, 8, 9, 10, 11, 12] day).bind fun (month, day) =>
    of? year month day

/-- The number of days of a year. -/
def yearLength (year : Nat) : Nat := if isLeap year then 366 else 365

/-- The date at a place counted from the start of a year, where 1 is the first day. Places up to a
year before or after the year are reached. -/
def ofYearDay? (year : Nat) (day : Int) : Option Date :=
  if day < 1 then ofDayOfYear? (year - 1) (day + yearLength (year - 1)).toNat
  else if yearLength year < day.toNat then ofDayOfYear? (year + 1) (day.toNat - yearLength year)
  else ofDayOfYear? year day.toNat

/-- The place of a weekday in an ISO week, counted from the start of the year that the week belongs
to; weekdays go from 1, Monday, to 7. The first week is the one with the fourth of January. -/
def isoYearDay (year week weekday : Nat) : Int :=
  -- The weekday of January 4, Monday being 0.
  let fourth := (daysBeforeYear year + 4 + 6) % 7
  (week : Int) * 7 + weekday - (7 + fourth + 1 - 4)

/-- The number of weeks of an ISO year: those that start with a Thursday, and leap years that start
with a Wednesday, have 53. -/
def isoWeekCount (year : Nat) : Nat :=
  let first := (daysBeforeYear year + 1 + 6) % 7
  if first = 3 ∨ (first = 2 ∧ isLeap year) then 53 else 52

/-- The ISO year and week of a date. -/
def isoWeek (d : Date) : Nat × Nat :=
  let week := ((d.dayOfYear : Int) - (d.weekday + 1) + 10) / 7
  if week < 1 then (d.year - 1, isoWeekCount (d.year - 1))
  else if isoWeekCount d.year < week.toNat then (d.year + 1, 1)
  else (d.year, week.toNat)

/-- The date with a number: its year is the one guessed from the mean length of a year, or the one
before or after. -/
def ofNumber? (n : Nat) : Option Date :=
  let guess := n * 400 / 146097 + 1
  ofYearDay? guess ((n : Int) - daysBeforeYear guess)

/-- The text `YYYY-MM-DD`. -/
def text (d : Date) : String := s!"{padded 4 d.year}-{padded 2 d.month}-{padded 2 d.day}"

end Date

/-- A time of day to the microsecond. -/
structure TimeOfDay where
  hour : Nat
  minute : Nat
  second : Nat
  microsecond : Nat
  deriving DecidableEq, Inhabited

/-- A date and a time of day, with the offset from universal time in seconds if it is known. -/
structure DateTime where
  date : Date
  time : TimeOfDay
  offset : Option Int
  deriving DecidableEq

namespace TimeOfDay

/-- The text `HH:MM:SS`, with six digits of the second's fraction unless it is zero. -/
def text (t : TimeOfDay) : String :=
  s!"{padded 2 t.hour}:{padded 2 t.minute}:{padded 2 t.second}" ++
    if t.microsecond = 0 then "" else "." ++ padded 6 t.microsecond

end TimeOfDay

namespace DateTime

/-- An offset as `+HH:MM`, with seconds unless they are zero. -/
def offsetText (offset : Int) : String :=
  let n := offset.natAbs
  let sign := if offset < 0 then "-" else "+"
  sign ++ padded 2 (n / 3600) ++ ":" ++ padded 2 (n / 60 % 60) ++
    if n % 60 = 0 then "" else ":" ++ padded 2 (n % 60)

/-- The number of the first day of the year 1970. -/
def epochNumber : Nat := 719163

/-- The moment so many microseconds after the start of 1970, in universal time. -/
def ofEpoch? (microseconds : Nat) : Option DateTime :=
  let seconds := microseconds / 1000000
  let time : TimeOfDay :=
    ⟨seconds / 3600 % 24, seconds / 60 % 60, seconds % 60, microseconds % 1000000⟩
  (Date.ofNumber? (epochNumber + seconds / 86400)).map fun date => ⟨date, time, some 0⟩

/-- The text of a date and time with the given separator between them. -/
def textWith (separator : String) (t : DateTime) : String :=
  t.date.text ++ separator ++ t.time.text ++ (t.offset.map offsetText).getD ""

/-- Microseconds since the start of the calendar, in universal time if the offset is known. -/
def instant (t : DateTime) : Int :=
  (((t.date.number * 24 + t.time.hour : Int) * 60 + t.time.minute) * 60 + t.time.second -
    t.offset.getD 0) * 1000000 + t.time.microsecond

/-- Two moments are the same; one with a known offset never equals one without. -/
def sameMoment (s t : DateTime) : Bool :=
  s.offset.isSome == t.offset.isSome && s.instant == t.instant

end DateTime

end RecordRules
