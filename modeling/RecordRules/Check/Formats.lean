import RecordRules.Json.Reader
import RecordRules.Parameter
import RecordRules.Text.Shape

/-!
# Format rules

Identifiers in hexadecimal groups, phone numbers, JSON objects, and texts in which a pattern given
as the parameter is found.
-/

namespace RecordRules.Check

/-! ## Identifiers -/

/-- True of hexadecimal digits. -/
def isHexDigit (c : Char) : Bool := (Pattern.hexValue? c).isSome

/-- Eight, four, four, four and twelve hexadecimal digits with hyphens between them. -/
def isHexGroups (s : List Char) : Bool :=
  let groups := Text.splitAll '-' s
  groups.map List.length == [8, 4, 4, 4, 12] && groups.all (·.all isHexDigit)

/-- The text inside a pair of braces. -/
def insideBraces? : List Char → Option (List Char)
  | '\x7b' :: rest => if rest.getLast? = some '\x7d' then some rest.dropLast else none
  | _ => none

/-- Hexadecimal groups, bare or in braces. -/
def isGuid (s : List Char) : Bool := isHexGroups ((insideBraces? s).getD s)

/-- A globally unique identifier. -/
def guidv4 : Check := Check.ofString "guidv4" isGuid

/-! ## Phone numbers -/

/-- True of the signs that may stand between groups of digits. -/
def isPhoneSeparator (c : Char) : Bool := Text.isAsciiBlank c || c == '-' || c == '.'

/-- A number of digits. -/
def phoneDigits (n : Nat) : Text.Shape := .times n (.one Char.isDigit)

/-- A separator or nothing. -/
def phoneSeparator : Text.Shape := .opt (.one isPhoneSeparator)

/-- Ten digits in groups of three, three and four, perhaps after a country digit. Up to two
separators, among them parentheses and brackets, may stand around the first group. -/
def phoneShape : Text.Shape :=
  .all [.opt ((phoneDigits 1).andThen phoneSeparator),
    .upTo 2 (.one fun c => isPhoneSeparator c || c == '(' || c == '['),
    phoneDigits 3,
    .upTo 2 (.one fun c => isPhoneSeparator c || c == ')' || c == ']'),
    phoneDigits 3, phoneSeparator, phoneDigits 4]

/-- A phone number of ten digits with an optional country digit. -/
def phoneNumber : Check := Check.ofText "phone_number" phoneShape.fits

/-! ## JSON -/

/-- A text holds a JSON object. A malformed text does not; a limit of the reader is a cause to give
up. -/
def isJsonObject (depthLimit : Nat) (s : List Char) : Except Cause Bool :=
  match Json.read depthLimit s with
  | .ok (.dict _) => .ok true
  | .ok _ | .error (.malformed ..) => .ok false
  | .error (.limit cause) => .error cause

/-- The text of a JSON object, with containers nested up to a limit. -/
def validJsonString (depthLimit : Nat) : Check := Check.ofTest "valid_json_string" fun v _ =>
  match v with
  | .text s => isJsonObject depthLimit s.toList
  | _ => .ok false

/-! ## Patterns -/

/-- The pattern of the parameter is found in the text of the value. -/
def regex (hasRoom : Pattern.Room) : Check := Check.ofTest "regex" fun v param => do
  let requested := (← Parameter.required "regex" param).toList
  match Pattern.ofParam requested hasRoom with
  | .error fault => throw (.pattern (.ofList (Pattern.request requested).1) fault)
  | .ok tree =>
    let text ← v.scalarText.mapError .tooLong
    return text.any fun s => (tree.search s.toList).isSome

end RecordRules.Check
