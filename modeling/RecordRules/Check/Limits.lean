import RecordRules.Parameter

/-!
# Limits

Rules that compare the length of a text, the number a value stands for or the number of items in a
list with a bound. Bounds are inclusive, and lengths count characters.
-/

namespace RecordRules.Check

/-- A rule that compares the length of a value's text with the integer parameter. -/
def lengthRule (rule : String) (compare : Int → Int → Bool) : Check :=
  Check.ofTest rule fun v param => do
    let limit ← Parameter.integer rule param
    let text ← v.scalarText.mapError .tooLong
    return text.any fun s => compare s.length limit

/-- The text has at most as many characters. -/
def maxLen : Check := lengthRule "max_len" fun n limit => n ≤ limit

/-- The text has at least as many characters. -/
def minLen : Check := lengthRule "min_len" fun n limit => limit ≤ n

/-- The text has exactly as many characters. -/
def exactLen : Check := lengthRule "exact_len" fun n limit => n = limit

/-- A rule that compares the number a value stands for with the number in the parameter. Where one
of them is no number the value is not in order. -/
def numericRule (rule : String) (compare : Decimal → Decimal → Bool) : Check :=
  Check.ofTest rule fun v param =>
    match v.toDecimal?, (paramValue param).toDecimal? with
    | some number, some bound => .ok (compare number bound)
    | _, _ => .ok false

/-- The number is not above the bound. -/
def maxNumeric : Check := numericRule "max_numeric" fun number bound => number.le bound

/-- The number is not below the bound. -/
def minNumeric : Check := numericRule "min_numeric" fun number bound => bound.le number

/-- The number of items of a list or tuple. -/
def itemCount? : Value → Option Nat
  | .list items | .tuple items => some items.length
  | _ => none

/-- A rule that compares the number of items of a list with the integer parameter. -/
def sizeRule (rule : String) (compare : Int → Int → Bool) : Check :=
  Check.ofTest rule fun v param => do
    let size ← Parameter.integer rule param
    return (itemCount? v).any fun n => compare n size

/-- The list has at least as many items. -/
def arraySizeGreater : Check := sizeRule "valid_array_size_greater" fun n size => size ≤ n

/-- The list has at most as many items. -/
def arraySizeLesser : Check := sizeRule "valid_array_size_lesser" fun n size => n ≤ size

/-- The list has exactly as many items. -/
def arraySizeEqual : Check := sizeRule "valid_array_size_equal" fun n size => n = size

end RecordRules.Check
