import RecordRules.Parameter

/-!
# Membership rules

Rules that compare a value with a list: words, items, the tokens of truth values, or a text to
start with. Case and surrounding white space do not matter in lists of words and items.
-/

namespace RecordRules.Check

/-- The text of a value, trimmed and in lower case. -/
def normalizedText (v : Value) : Except Cause (Option String) := do
  let text ← v.scalarText.mapError .tooLong
  return text.map fun s => .ofList (Text.lowercase (Text.trim s.toList))

/-- A list of words as a parameter to report. -/
def listParam (words : List String) : Value := .list (words.map .text)

/-- The value is one of the words of the parameter. -/
def contains : Check := Check.optional "contains" fun v _ param => do
  let words := Parameter.words (← Parameter.required "contains" param)
  return if (← normalizedText v).any words.contains then .pass else .fail (listParam words)

/-- The value is one of the items of the parameter. -/
def containsList : Check := Check.optional "contains_list" fun v _ param => do
  let items := Parameter.items (← Parameter.required "contains_list" param)
  return if (← normalizedText v).any items.contains then .pass else .fail (listParam items)

/-- The value has a text that is none of the items of the parameter. -/
def doesntContainList : Check := Check.optional "doesnt_contain_list" fun v _ param => do
  let items := Parameter.items (← Parameter.required "doesnt_contain_list" param)
  return if (← normalizedText v).any (!items.contains ·) then .pass else .fail (listParam items)

/-- The texts that stand for truth values. -/
def booleanWords : List String := ["1", "true", "0", "false", "yes", "no", "on", "off"]

/-- True of truth values, of the integers 0 and 1 and of the texts that stand for truth values. -/
def isBoolean : Value → Bool
  | .bool _ => true
  | .int n => n == 0 || n == 1
  | .text s => booleanWords.contains s
  | _ => false

/-- The value is a truth value or stands for one. -/
def boolean : Check := Check.ofTest "boolean" fun v _ => .ok (isBoolean v)

/-- The text of the value starts with the parameter. -/
def starts : Check := Check.ofTest "starts" fun v param => do
  let start ← Parameter.required "starts" param
  let text ← v.scalarText.mapError .tooLong
  return text.any fun s => start.toList.isPrefixOf s.toList

end RecordRules.Check
