import RecordRules.Calendar.Format
import RecordRules.Calendar.Iso
import RecordRules.Parameter

/-!
# Date rules

`date` accepts the texts that survive reading and writing in a format unchanged, and `minAge`
compares the age of a person, in whole years, with the integer parameter.
-/

namespace RecordRules.Check

open RecordRules.Calendar (Format)

/-- The formats of dates when the parameter gives none. -/
def defaultFormats : List String := ["%Y-%m-%d", "%Y-%m-%d %H:%M:%S"]

/-- A text survives reading and writing in a format. A text that is no format has no dates. -/
def isDateIn (format : String) (s : List Char) : Except Cause Bool :=
  match Format.ofText? format.toList with
  | none => .ok false
  | some f => (f.roundTrips s).mapError (.pattern (.ofList f.pattern))

/-- Some format of a list makes a text a date; the formats are tried in order. -/
def isDateInAny (s : List Char) : List String → Except Cause Bool
  | [] => .ok false
  | format :: formats => do
    if ← isDateIn format s then return true else isDateInAny s formats

/-- The formats that a parameter asks for. -/
def formats : Option String → List String
  | none | some "" => defaultFormats
  | some format => [format]

/-- A date in the format of the parameter. -/
def date : Check := Check.ofTest "date" fun v param =>
  match v with
  | .text s => isDateInAny s.toList (formats param)
  | _ => .ok false

/-- Whole years between a birth date and a day. -/
def ageOn (birth today : Date) : Int :=
  let years : Int := (today.year : Int) - birth.year
  if today.month < birth.month ∨ (today.month = birth.month ∧ today.day < birth.day) then years - 1
  else years

/-- The date of birth that a value gives. -/
def birthDate? : Value → Option Date
  | .datetime t => some t.date
  | .date d => some d
  | .text s => (DateTime.ofIso? (Text.trim s.toList)).map (·.date)
  | _ => none

/-- The person is at least as old in whole years today. -/
def minAge (today : Date) : Check := Check.ofTest "min_age" fun v param => do
  let least ← Parameter.integer "min_age" param
  return (birthDate? v).any fun birth => decide (least ≤ ageOn birth today)

end RecordRules.Check
