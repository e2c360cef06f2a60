import RecordRules.Parameter

/-!
# Number rules

`numeric` and `float` accept the finite numbers and the texts that write one; `integer` accepts the
integers of 64 bits, as numbers or as text without leading zeros.
-/

namespace RecordRules.Check

/-- The value is a number or writes one. -/
def numeric : Check := Check.ofTest "numeric" fun v _ => .ok v.toDecimal?.isSome

/-- The value is a number or writes one; the rule differs from `numeric` in its name. -/
def float : Check := Check.ofTest "float" fun v _ => .ok v.toDecimal?.isSome

/-- True of the signed integers of 64 bits. -/
def fitsInt64 (n : Int) : Bool := -0x8000000000000000 ≤ n && n ≤ 0x7fffffffffffffff

/-- True of a digit string that is a single zero or does not start with one. -/
def isCanonical : List Char → Bool
  | [] => false
  | ['0'] => true
  | '0' :: _ => false
  | ds => ds.all Char.isDigit

/-- A text is an integer of 64 bits, written with an optional sign and without leading zeros. -/
def isInteger64Text (s : List Char) : Except Cause Bool :=
  let (negative, digits) := Number.splitSign (Text.trim s)
  if isCanonical digits then
    if Number.digitLimit < digits.length then .error (.tooManyDigits digits.length)
    else .ok (fitsInt64 (Number.signed negative (Number.ofDigits (Numeral.digits digits).1)))
  else .ok false

/-- A value is an integer of 64 bits or writes one. -/
def isInteger64 : Value → Except Cause Bool
  | .int n => .ok (fitsInt64 n)
  | .float x => .ok (x.toInt?.any fitsInt64)
  | .text s => isInteger64Text s.toList
  | _ => .ok false

/-- The value is an integer of 64 bits. -/
def integer : Check := Check.ofTest "integer" fun v _ => isInteger64 v

end RecordRules.Check
