import RecordRules.Check.Basic
import RecordRules.Text.Shape

/-!
# Checksum rules

`luhn` checks the digits of a payment card number, whatever stands between them; `isIban` checks
the form of an international bank account number and its remainder by 97.
-/

namespace RecordRules.Check

/-- The value of an ASCII digit. -/
def digitValue (c : Char) : Nat := c.toNat - 0x30

/-- The digit sum of the double of a digit. -/
def doubled (d : Nat) : Nat := if 9 < 2 * d then 2 * d - 9 else 2 * d

/-- The sum of digits of which every other one is doubled; `double` says whether the first is. -/
def luhnSum (double : Bool) : List Nat → Nat
  | [] => 0
  | d :: rest => (if double then doubled d else d) + luhnSum (!double) rest

/-- The digits of a text, with the last one counted once, the one before it doubled and so on, sum
up to a multiple of ten. A text without digits does not. -/
def luhn (s : List Char) : Bool :=
  let digits := (s.filter Char.isDigit).map digitValue
  !digits.isEmpty && luhnSum (digits.length % 2 == 0) digits % 10 == 0

/-- The number of a payment card. -/
def validCard : Check := Check.ofText "valid_cc" luhn

/-! ## Account numbers -/

/-- True of ASCII capitals. -/
def isCapital (c : Char) : Bool := c.isUpper

/-- A space or nothing. -/
def spaceOpt : Text.Shape := .opt (.one (· == ' '))

/-- Four digits, perhaps after a space. -/
def fourDigits : Text.Shape := spaceOpt.andThen (.times 4 (.one Char.isDigit))

/-- Groups of four digits, one or more; `fuel` bounds their number. -/
def digitGroups : Nat → Text.Shape
  | 0 => fun _ => []
  | fuel + 1 => fourDigits.andThen (.opt (digitGroups fuel))

/-- The form of an account number: a country code and two check digits, four characters that may
be letters, groups of four digits, and one to four digits; single spaces may stand between the
parts. -/
def ibanShape (fuel : Nat) : Text.Shape :=
  .all [.times 2 (.one isCapital), .times 2 (.one Char.isDigit), spaceOpt,
    .times 4 (.one fun c => isCapital c || c.isDigit), digitGroups fuel, spaceOpt,
    .one Char.isDigit, .upTo 3 (.one Char.isDigit)]

/-- A letter counts as a number of two digits: `A` is 10, `Z` is 35. -/
def ibanDigits (c : Char) : List Nat :=
  if c.isDigit then [digitValue c] else [(c.toNat - 55) / 10, (c.toNat - 55) % 10]

/-- The digits of the number that an account number stands for, the country code and check digits
being moved to its end. -/
def ibanNumber (s : List Char) : List Nat :=
  let compact := s.filter (· ≠ ' ')
  (compact.drop 4 ++ compact.take 4).flatMap ibanDigits

/-- The remainder by 97 of a number given by its digits. -/
def remainder97 (digits : List Nat) : Nat := digits.foldl (fun n d => (10 * n + d) % 97) 0

/-- A text has the form of an account number and the remainder 1 by 97. A number beyond the digit
limit is not computed. -/
def isIban (s : List Char) : Except Cause Bool :=
  if (ibanShape s.length).fits s then
    let digits := ibanNumber s
    if Number.digitLimit < digits.length then .error (.tooManyDigits digits.length)
    else .ok (remainder97 digits == 1)
  else .ok false

/-- An international bank account number in capitals. -/
def iban : Check := Check.ofTest "iban" fun v _ =>
  match v with
  | .text s => isIban s.toList
  | _ => .ok false

end RecordRules.Check
