import RecordRules.Number.Power
import RecordRules.Calendar.Date

/-!
# ISO 8601 dates and times

`DateTime.ofIso?` reads a date with an optional time of day and an optional offset from universal
time. A date is `YYYY-MM-DD`, `YYYYMMDD`, or a week date such as `YYYY-Www-D`, where the weekday may
be missing and the hyphens may be left out together. One character of any kind separates date and
time. The digits are those of ASCII. Lengths are those in bytes, so a character takes as many places as
it has bytes.
-/

namespace RecordRules.Iso

/-- A text with each character once for each of its bytes. -/
def byBytes (s : List Char) : List Char := s.flatMap fun c => List.replicate c.utf8Size c

/-- The character at the start of what is left of a text; NUL at the end. -/
def front : List Char → Char
  | [] => '\x00'
  | c :: _ => c

/-- Reads a fixed number of digits. -/
def digits? (n : Nat) (s : List Char) : Option (Nat × List Char) :=
  let ds := s.take n
  if ds.length = n && ds.all Char.isDigit then
    some (ds.foldl (fun acc c => 10 * acc + (c.toNat - 0x30)) 0, s.drop n)
  else none

/-- Skips a hyphen where hyphens are in use; fails where one is missing. -/
def hyphen? (hyphens : Bool) (s : List Char) : Option (List Char) :=
  if !hyphens then some s
  else match s with
    | '-' :: rest => some rest
    | _ => none

/-- The number of characters of the date at the start of a text. The forms are told apart by the
characters after the year; where a week date may go on with a weekday or with a time, the number of
digits decides. -/
def dateLength (s : List Char) : Nat :=
  let isDigitAt (n : Nat) := (front (s.drop n)).isDigit
  if s.length = 7 then 7
  else if front (s.drop 4) = '-' then
    if front (s.drop 5) = 'W' then
      if front (s.drop 8) = '-' && !(10 < s.length && isDigitAt 10) then 10 else 8
    else 10
  else if front (s.drop 4) = 'W' then
    let run := ((s.drop 7).takeWhile Char.isDigit).length
    if run < 2 then 7 + run else if run % 2 = 1 then 7 else 8
  else 8

/-- The date of a week date: the text after the `W`. -/
def weekDate? (hyphens : Bool) (year : Nat) (s : List Char) : Option Date := do
  let (week, s) ← digits? 2 s
  let weekday ← if s.isEmpty then some 1 else do
    let (weekday, rest) ← digits? 1 (← hyphen? hyphens s)
    if rest.isEmpty then some weekday else none
  if 1 ≤ year && 1 ≤ week && week ≤ Date.isoWeekCount year && 1 ≤ weekday && weekday ≤ 7 then
    Date.ofYearDay? year (Date.isoYearDay year week weekday)
  else none

/-- Reads a date that fills the text. -/
def date? (s : List Char) : Option Date := do
  let (year, s) ← digits? 4 s
  let hyphens := front s = '-'
  let s := if hyphens then s.drop 1 else s
  if front s = 'W' then weekDate? hyphens year (s.drop 1)
  else
    let (month, s) ← digits? 2 s
    let (day, s) ← digits? 2 (← hyphen? hyphens s)
    if s.isEmpty then Date.of? year month day else none

/-- Hours, minutes, seconds and microseconds, within the bounds of a clock or not. -/
structure Clock where
  hours : Nat
  minutes : Nat
  seconds : Nat
  microseconds : Nat
  deriving Inhabited

/-- Reads the fraction of a second: six digits count, further digits are skipped. The flag tells
whether the text ends there. -/
def fraction? (s : List Char) : Option (Nat × Bool) := do
  let n := min 6 s.length
  let (value, rest) ← digits? n s
  let after := rest.dropWhile Char.isDigit
  return (value * tenTo (6 - n), front after = '\x00')

/-- What follows a component of a clock. -/
inductive Next
  | finished (clean : Bool)
  | component (rest : List Char)
  | fraction (rest : List Char)
  | malformed

/-- Decides how a clock goes on. Colons separate the components if one follows the hours. -/
def next (colons : Bool) : List Char → Next
  | [] => .finished true
  | [c] => .finished (c = '\x00')
  | c :: rest =>
    if colons && c = ':' then .component rest
    else if c = '.' || c = ',' then .fraction rest
    else if colons then .malformed
    else .component (c :: rest)

/-- Reads a clock: hours, and perhaps minutes, seconds and a fraction. The flag tells whether the
text ends there. -/
def clock? (s : List Char) : Option (Clock × Bool) := do
  let (hours, s) ← digits? 2 s
  let colons := front s = ':'
  match next colons s with
  | .malformed => none
  | .finished clean => return (⟨hours, 0, 0, 0⟩, clean)
  | .fraction s =>
    let (micros, clean) ← fraction? s
    return (⟨hours, 0, 0, micros⟩, clean)
  | .component s =>
    let (minutes, s) ← digits? 2 s
    match next colons s with
    | .malformed => none
    | .finished clean => return (⟨hours, minutes, 0, 0⟩, clean)
    | .fraction s =>
      let (micros, clean) ← fraction? s
      return (⟨hours, minutes, 0, micros⟩, clean)
    | .component s =>
      let (seconds, s) ← digits? 2 s
      match next colons s with
      | .malformed => none
      | .finished clean => return (⟨hours, minutes, seconds, 0⟩, clean)
      | .fraction s | .component s =>
        let (micros, clean) ← fraction? s
        return (⟨hours, minutes, seconds, micros⟩, clean)

/-- The number of seconds of a day. -/
def daySeconds : Nat := 86400

/-- The offset in seconds written after its sign. -/
def offset? (negative : Bool) (s : List Char) : Option Int := do
  let (c, clean) ← clock? s
  let seconds := c.hours * 3600 + c.minutes * 60 + c.seconds
  if clean && seconds < daySeconds then
    some (if negative then -(seconds : Int) else seconds)
  else none

/-- The time of day of a clock. -/
def Clock.time? (c : Clock) : Option TimeOfDay :=
  if c.hours < 24 && c.minutes < 60 && c.seconds < 60 then
    some ⟨c.hours, c.minutes, c.seconds, c.microseconds⟩
  else none

/-- Reads a time of day with an optional offset. -/
def time? (s : List Char) : Option (TimeOfDay × Option Int) := do
  let isSign (c : Char) := c == '+' || c == '-' || c == 'Z'
  let (c, clean) ← clock? (s.takeWhile (!isSign ·))
  let time ← c.time?
  match s.dropWhile (!isSign ·) with
  | [] => if clean then return (time, none) else none
  | ['Z'] => return (time, some 0)
  | 'Z' :: rest => if front rest = '\x00' then return (time, some 0) else none
  | sign :: rest => return (time, some (← offset? (sign = '-') rest))

end RecordRules.Iso

namespace RecordRules

/-- Reads a date, or a date and a time with a character between them. -/
def DateTime.ofIso? (text : List Char) : Option DateTime := do
  let s := Iso.byBytes text
  if s.length < 7 then none
  else
    let n := Iso.dateLength s
    let date ← Iso.date? (s.take n)
    match s.drop n with
    | [] => return ⟨date, ⟨0, 0, 0, 0⟩, none⟩
    | separator :: rest =>
      let (time, offset) ← Iso.time? (rest.drop (separator.utf8Size - 1))
      return ⟨date, time, offset⟩

end RecordRules
