import RecordRules.Calendar.Date
import RecordRules.Pattern.Matcher

/-!
# Date formats

A format is a text with directives such as `%Y` in it. `Format.read?` reads a date and time written
in a format, by way of the pattern that the format stands for, and `Format.write` writes one.
`Format.roundTrips` asks whether a text is exactly what writing yields after reading it. Reading is
more lenient than writing: case and the width of numbers and of white space do not matter.
-/

namespace RecordRules.Calendar

/-! ## Formats -/

/-- The parts of a date and time that a format may name. -/
inductive Directive
  | day
  | fraction
  | hour
  | hourOfHalf
  | half
  | isoYear
  | isoWeek
  | isoWeekday
  | dayOfYear
  | month
  | minute
  | second
  | weekFromSunday
  | weekFromMonday
  | weekdayNumber
  | yearOfCentury
  | year
  | offset
  | zone
  | weekdayName
  | weekdayShort
  | monthName
  | monthShort
  deriving DecidableEq, Repr

/-- A piece of a format: a character to be found as it is, white space, a directive, or the day as
the compound `%c` writes it, padded with a space. -/
inductive Piece
  | char (c : Char)
  | gap (spaces : List Char)
  | part (d : Directive)
  | paddedDay
  deriving DecidableEq, Repr

/-- A format read into its pieces. -/
abbrev Format := List Piece

namespace Directive

/-- The letter of a directive. -/
def letter : Directive → Char
  | day => 'd'
  | fraction => 'f'
  | hour => 'H'
  | hourOfHalf => 'I'
  | half => 'p'
  | isoYear => 'G'
  | isoWeek => 'V'
  | isoWeekday => 'u'
  | dayOfYear => 'j'
  | month => 'm'
  | minute => 'M'
  | second => 'S'
  | weekFromSunday => 'U'
  | weekFromMonday => 'W'
  | weekdayNumber => 'w'
  | yearOfCentury => 'y'
  | year => 'Y'
  | offset => 'z'
  | zone => 'Z'
  | weekdayName => 'A'
  | weekdayShort => 'a'
  | monthName => 'B'
  | monthShort => 'b'

/-- All directives. -/
def all : List Directive :=
  [day, fraction, hour, hourOfHalf, half, isoYear, isoWeek, isoWeekday, dayOfYear, month, minute,
    second, weekFromSunday, weekFromMonday, weekdayNumber, yearOfCentury, year, offset, zone,
    weekdayName, weekdayShort, monthName, monthShort]

/-- The directive of a letter. -/
def ofLetter? (c : Char) : Option Directive := all.find? (·.letter == c)

/-- The texts that a directive reads, as a pattern. -/
def body : Directive → String
  | day => "3[0-1]|[1-2]\\d|0[1-9]|[1-9]| [1-9]"
  | fraction => "[0-9]\x7b1,6\x7d"
  | hour => "2[0-3]|[0-1]\\d|\\d"
  | hourOfHalf => "1[0-2]|0[1-9]|[1-9]"
  | half => "am|pm"
  | isoYear => "\\d\\d\\d\\d"
  | isoWeek => "5[0-3]|0[1-9]|[1-4]\\d|\\d"
  | isoWeekday => "[1-7]"
  | dayOfYear => "36[0-6]|3[0-5]\\d|[1-2]\\d\\d|0[1-9]\\d|00[1-9]|[1-9]\\d|0[1-9]|[1-9]"
  | month => "1[0-2]|0[1-9]|[1-9]"
  | minute => "[0-5]\\d|\\d"
  | second => "6[0-1]|[0-5]\\d|\\d"
  | weekFromSunday | weekFromMonday => "5[0-3]|[0-4]\\d|\\d"
  | weekdayNumber => "[0-6]"
  | yearOfCentury => "\\d\\d"
  | year => "\\d\\d\\d\\d"
  | offset => "[+-]\\d\\d:?[0-5]\\d(:?[0-5]\\d(\\.\\d\x7b1,6\x7d)?)?|(?-i:Z)"
  | zone => "utc|gmt"
  | weekdayName => "wednesday|thursday|saturday|tuesday|monday|friday|sunday"
  | weekdayShort => "mon|tue|wed|thu|fri|sat|sun"
  | monthName =>
    "september|february|november|december|january|october|august|march|april|june|july|may"
  | monthShort => "jan|feb|mar|apr|may|jun|jul|aug|sep|oct|nov|dec"

/-- The pattern of a directive: a group named by its letter. -/
def pattern (d : Directive) : String := s!"(?P<{d.letter}>" ++ d.body ++ ")"

end Directive

namespace Format

/-- A format without white space runs and compounds, written with its letters. -/
def ofLetters (s : String) : Format :=
  s.toList.map fun c =>
    match Directive.ofLetter? c with
    | some d => .part d
    | none => if c = ' ' then .gap [c] else .char c

/-- The pieces that the letter after a percent sign stands for. -/
def ofLetter? (c : Char) : Option Format :=
  if c = '%' then some [.char '%']
  else if c = 'c' then
    some (ofLetters "a b " ++ .paddedDay :: ofLetters " H:M:S Y")
  else if c = 'x' then some (ofLetters "m/d/y")
  else if c = 'X' then some (ofLetters "H:M:S")
  else (Directive.ofLetter? c).map fun d => [.part d]

/-- Adds a white space character in front; a run of them is one piece. -/
def consGap (c : Char) : Format → Format
  | .gap spaces :: rest => .gap (c :: spaces) :: rest
  | pieces => .gap [c] :: pieces

/-- Reads a format. One with a percent sign that names nothing is no format. -/
def ofText? : List Char → Option Format
  | [] => some []
  | ['%'] => none
  | '%' :: c :: rest => do
    let pieces ← ofLetter? c
    return pieces ++ (← ofText? rest)
  | c :: rest =>
    if Text.isBlank c then (ofText? rest).map (consGap c)
    else (ofText? rest).map (.char c :: ·)

/-- True of the characters that have a meaning of their own in a pattern. -/
def isSpecial (c : Char) : Bool := "\\.^$*+?()\x7b\x7d[]|".toList.contains c

end Format

/-- The pattern of a piece. -/
def Piece.pattern : Piece → List Char
  | char c => if Format.isSpecial c then ['\\', c] else [c]
  | gap _ => "\\s+".toList
  | part d => d.pattern.toList
  | paddedDay => Directive.day.pattern.toList

/-- The pattern that a format stands for. -/
def Format.pattern (f : Format) : List Char := f.flatMap Piece.pattern

/-! ## Moments -/

/-- An offset from universal time in seconds and microseconds, with the name of the zone if it is
known. -/
structure Zone where
  seconds : Int
  microseconds : Int
  name : Option (List Char)

/-- A date and a time of day, in a zone or not. -/
structure Moment where
  date : Date
  time : TimeOfDay
  zone : Option Zone

/-- The names of the weekdays, from Monday. -/
def weekdayNames : List String :=
  ["Monday", "Tuesday", "Wednesday", "Thursday", "Friday", "Saturday", "Sunday"]

/-- The names of the months. -/
def monthNames : List String :=
  ["January", "February", "March", "April", "May", "June", "July", "August", "September",
    "October", "November", "December"]

/-- The first three letters of a name. -/
def shortName (s : String) : String := .ofList (s.toList.take 3)

/-- The place of a name in a list, case aside. -/
def placeOf? (names : List String) (s : List Char) : Option Nat :=
  names.findIdx? fun name => Text.lowercase name.toList == Text.lowercase s

/-! ## Reading -/

/-- What has been read: the parts of a date and time as far as a format names them. -/
structure Parts where
  year : Option Nat := none
  isoYear : Option Nat := none
  month : Nat := 1
  day : Nat := 1
  hour : Nat := 0
  minute : Nat := 0
  second : Nat := 0
  microsecond : Nat := 0
  weekday : Option Nat := none
  dayOfYear : Option Nat := none
  week : Option (Nat × Bool) := none
  isoWeek : Option Nat := none
  offset : Option (Int × Int) := none

/-- The number written by decimal digits of any script. -/
def numberOf (s : List Char) : Nat := Number.ofDigits (s.filterMap Text.digitValue?)

/-- The hour of the day from the hour of the half day. Without a half it is the first one. -/
def hourFromHalf (hour : Nat) (half : Option (List Char)) : Nat :=
  if half.map Text.lowercase == some "pm".toList then (if hour = 12 then 12 else hour + 12)
  else if hour = 12 then 0 else hour

/-- The microseconds written by up to six digits. -/
def microsecondsOf (s : List Char) : Nat := numberOf s * tenTo (6 - s.length)

/-- The offset written as a sign, hours, minutes and perhaps seconds with a fraction. Colons stand
between all parts or none. -/
def offsetOf? : List Char → Option (Int × Int)
  | ['Z'] => some (0, 0)
  | sign :: h₁ :: h₂ :: rest =>
    let compact? : Option (List Char) :=
      match rest with
      | ':' :: m₁ :: m₂ :: [] => some [m₁, m₂]
      | ':' :: m₁ :: m₂ :: ':' :: more => some (m₁ :: m₂ :: more)
      | ':' :: _ => none
      | _ => some rest
    compact?.bind fun s =>
      if (s.take 4).contains ':' then none
      else
        let seconds := numberOf [h₁, h₂] * 3600 + numberOf (s.take 2) * 60 +
          numberOf ((s.drop 2).take 2)
        let micros := microsecondsOf (s.drop 5)
        if sign = '-' then some (-(seconds : Int), -(micros : Int))
        else some (seconds, micros)
  | _ => none

namespace Parts

/-- Takes in the text read for a directive; `half` is the text read for the half of the day. -/
def take? (half : Option (List Char)) (p : Parts) (d : Directive) (s : List Char) :
    Option Parts :=
  let n := numberOf s
  match d with
  | .day => some { p with day := n }
  | .fraction => some { p with microsecond := microsecondsOf s }
  | .hour => some { p with hour := n }
  | .hourOfHalf => some { p with hour := hourFromHalf n half }
  | .half | .zone => some p
  | .isoYear => some { p with isoYear := some n }
  | .isoWeek => some { p with isoWeek := some n }
  | .isoWeekday => some { p with weekday := some (n - 1) }
  | .dayOfYear => some { p with dayOfYear := some n }
  | .month => some { p with month := n }
  | .minute => some { p with minute := n }
  | .second => some { p with second := n }
  | .weekFromSunday => some { p with week := some (n, false) }
  | .weekFromMonday => some { p with week := some (n, true) }
  | .weekdayNumber => some { p with weekday := some ((n + 6) % 7) }
  | .yearOfCentury => some { p with year := some (if n ≤ 68 then 2000 + n else 1900 + n) }
  | .year => some { p with year := some n }
  | .offset => (offsetOf? s).map fun offset => { p with offset := some offset }
  | .weekdayName => (placeOf? weekdayNames s).map fun i => { p with weekday := some i }
  | .weekdayShort =>
    (placeOf? (weekdayNames.map shortName) s).map fun i => { p with weekday := some i }
  | .monthName => (placeOf? monthNames s).map fun i => { p with month := i + 1 }
  | .monthShort => (placeOf? (monthNames.map shortName) s).map fun i => { p with month := i + 1 }

/-- The directives of ISO weeks come together: the year, the week and a weekday, without a day of
the year. -/
def isoComplete (p : Parts) : Bool :=
  match p.isoYear with
  | some _ => p.dayOfYear.isNone && p.isoWeek.isSome && p.weekday.isSome
  | none => p.isoWeek.isNone

/-- The place of a weekday in a week, counted from the start of the year; weeks start with Monday or
with Sunday, and week 0 is what comes before the first full one. -/
def weekYearDay (year week weekday : Nat) (fromMonday : Bool) : Int :=
  let first := (Date.daysBeforeYear year + 1 + 6) % 7
  let first := if fromMonday then first else (first + 1) % 7
  let weekday := if fromMonday then weekday else (weekday + 1) % 7
  if week = 0 then 1 + weekday - first
  else 1 + ((7 - first) % 7 + 7 * (week - 1)) + weekday

/-- The year and the place in it that week and weekday give, if they are known. -/
def weekPlace? (p : Parts) (year : Nat) : Option (Nat × Int) :=
  match p.dayOfYear, p.weekday with
  | none, some weekday =>
    match p.week, p.isoYear, p.isoWeek with
    | some (week, fromMonday), _, _ => some (year, weekYearDay year week weekday fromMonday)
    | none, some isoYear, some isoWeek =>
      some (isoYear, Date.isoYearDay isoYear isoWeek (weekday + 1))
    | _, _, _ => none
  | _, _ => none

/-- The date that the parts give. Without a year it is a date of 1900, where the twenty-ninth of
February is missing; the other parts are still looked up in a leap year then. -/
def date? (p : Parts) : Option Date := do
  let leap := p.year.isNone && p.month = 2 && p.day = 29
  let year := p.year.getD (if leap then 1904 else 1900)
  let place := (p.weekPlace? year).or (p.dayOfYear.map fun d => (year, (d : Int)))
  let date ← match place with
    | some (0, _) => none
    | some (y, day) => if day < 1 ∧ y ≤ 1 then none else Date.ofYearDay? y day
    | none => Date.of? year p.month p.day
  if leap then Date.of? 1900 date.month date.day else return date

/-- The zone that the parts give; `name` is the text read for it. Only offsets below a day make
one. -/
def zone? (p : Parts) (name : Option (List Char)) : Option (Option Zone) :=
  match p.offset with
  | none => some none
  | some (seconds, micros) =>
    if seconds.natAbs < 86400 then some (some ⟨seconds, micros, name⟩) else none

/-- The moment that the parts give. -/
def moment? (p : Parts) (zoneName : Option (List Char)) : Option Moment := do
  if !p.isoComplete then none
  else
    let date ← p.date?
    let zone ← p.zone? zoneName
    if p.hour < 24 && p.minute < 60 && p.second < 60 then
      return ⟨date, ⟨p.hour, p.minute, p.second, p.microsecond⟩, zone⟩
    else none

end Parts

namespace Format

/-- The directives of a format. -/
def directives (f : Format) : List Directive :=
  f.filterMap fun
    | .part d => some d
    | .paddedDay => some .day
    | _ => none

/-- The texts read for the directives of a format. -/
def captures (tree : Pattern.Tree) (m : Pattern.Match) (text : List Char) (f : Format) :
    List (Directive × List Char) :=
  f.directives.filterMap fun d => do
    let group ← tree.names.lookup d.letter.toString
    let (first, last) ← (m.groups[group - 1]?).join
    return (d, (text.drop first).take (last - first))

/-- Reads a moment written in a format. It fails when the format cannot be made into a pattern. -/
def read? (f : Format) (text : List Char) : Except Pattern.Fault (Option Moment) := do
  let tree ← Pattern.Tree.read { ignoreCase := true } f.pattern
  return do
    let m ← tree.matchAt? text.toArray 0
    if m.last ≠ text.length then none
    else
      let found := f.captures tree m text
      let parts ← found.foldlM (fun p (d, s) => Parts.take? (found.lookup .half) p d s) {}
      parts.moment? (found.lookup .zone)

/-! ## Writing -/

/-- An offset as it is written: a sign, hours and minutes, seconds unless they are zero, and a
fraction unless it is zero. -/
def offsetText (z : Zone) : String :=
  let negative := z.seconds < 0 || z.microseconds < 0
  let n := z.seconds.natAbs
  let micros := z.microseconds.natAbs
  (if negative then "-" else "+") ++ padded 2 (n / 3600) ++ padded 2 (n / 60 % 60) ++
    (if n % 60 = 0 && micros = 0 then "" else padded 2 (n % 60)) ++
    (if micros = 0 then "" else "." ++ padded 6 micros)

/-- A number in two places, padded with a space. -/
def spaced (n : Nat) : String := if n < 10 then s!" {n}" else n.repr

/-- The text of a directive. Years are not padded. -/
def part (m : Moment) : Directive → String
  | .day => padded 2 m.date.day
  | .fraction => padded 6 m.time.microsecond
  | .hour => padded 2 m.time.hour
  | .hourOfHalf => padded 2 ((m.time.hour + 11) % 12 + 1)
  | .half => if m.time.hour < 12 then "AM" else "PM"
  | .isoYear => m.date.isoWeek.1.repr
  | .isoWeek => padded 2 m.date.isoWeek.2
  | .isoWeekday => (m.date.weekday + 1).repr
  | .dayOfYear => padded 3 m.date.dayOfYear
  | .month => padded 2 m.date.month
  | .minute => padded 2 m.time.minute
  | .second => padded 2 m.time.second
  | .weekFromSunday => padded 2 ((m.date.dayOfYear + 6 - (m.date.weekday + 1) % 7) / 7)
  | .weekFromMonday => padded 2 ((m.date.dayOfYear + 6 - m.date.weekday) / 7)
  | .weekdayNumber => ((m.date.weekday + 1) % 7).repr
  | .yearOfCentury => padded 2 (m.date.year % 100)
  | .year => m.date.year.repr
  | .offset => (m.zone.map offsetText).getD ""
  | .zone => ((m.zone.bind (·.name)).map String.ofList).getD ""
  | .weekdayName => (weekdayNames[m.date.weekday]?).getD ""
  | .weekdayShort => ((weekdayNames[m.date.weekday]?).map shortName).getD ""
  | .monthName => (monthNames[m.date.month - 1]?).getD ""
  | .monthShort => ((monthNames[m.date.month - 1]?).map shortName).getD ""

/-- The text of a piece. -/
def piece (m : Moment) : Piece → List Char
  | .char c => [c]
  | .gap spaces => spaces
  | .part d => (part m d).toList
  | .paddedDay => (spaced m.date.day).toList

/-- Writes a moment in a format. A NUL ends the format. -/
def write (f : Format) (m : Moment) : List Char :=
  (f.takeWhile (· != .char '\x00')).flatMap (piece m)

/-- A text is what writing yields after reading it. -/
def roundTrips (f : Format) (text : List Char) : Except Pattern.Fault Bool := do
  return (← f.read? text).any fun m => f.write m == text

end Format

end RecordRules.Calendar
