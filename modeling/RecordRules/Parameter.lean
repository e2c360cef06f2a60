import RecordRules.Check.Basic
import RecordRules.Text.Split

/-!
# Parameters of rules

The small grammars in which rules take their parameters: an integer, a list of words separated by
blanks or put between apostrophes, a list separated by semicolons, and a number.
-/

namespace RecordRules.Parameter

/-- The parameter of a rule that needs one. -/
def required (rule : String) : Option String → Except Cause String
  | some param => .ok param
  | none => .error (.missingParam rule)

/-- An integer parameter. -/
def integer (rule : String) (param : Option String) : Except Cause Int := do
  let text ← required rule param
  match Number.readInteger? text.toList with
  | some n => return n
  | none => throw (.notInteger rule text)

/-- Where the reader of quoted words stands: outside of quotes, right after an opening one, or
inside a word. -/
inductive QuoteState
  | outside
  | opened
  | inside (word : List Char)

/-- The words between apostrophes. A word has at least one character and stays on one line. -/
def quotedWords : QuoteState → List Char → List (List Char)
  | _, [] => []
  | .outside, c :: rest => quotedWords (if c = '\'' then .opened else .outside) rest
  | .opened, c :: rest => quotedWords (if c = '\n' then .outside else .inside [c]) rest
  | .inside word, c :: rest =>
    if c = '\'' then word :: quotedWords .outside rest
    else if c = '\n' then quotedWords .outside rest
    else quotedWords (.inside (word ++ [c])) rest

/-- A parameter in lower case, without white space around it. -/
def normalized (s : List Char) : List Char := Text.trim (Text.lowercase s)

/-- The words of a list parameter in lower case: those between apostrophes if there are any,
otherwise the pieces between single spaces. -/
def words (param : String) : List String :=
  let text := normalized param.toList
  match quotedWords .outside text with
  | [] => (Text.splitAll ' ' text).map .ofList
  | quoted => quoted.map .ofList

/-- The items of a list parameter in lower case: the pieces between semicolons, trimmed, without
empty ones. -/
def items (param : String) : List String :=
  let pieces := (Text.splitAll ';' (normalized param.toList)).map Text.trim
  (pieces.filter (!·.isEmpty)).map .ofList

end RecordRules.Parameter

namespace RecordRules

/-- A finite double precision number as the decimal that its text denotes. -/
def Binary64.toDecimal? : Binary64 → Option Decimal
  | .finite negative m e =>
    if m = 0 then some (.finite negative 0 (-1))
    else
      let (d, p) := Binary64.shortest m e
      let lead : Int := p + Number.digitCount d - 1
      -- Positional text of a whole number shows all its digits and one zero after the point.
      if 0 ≤ p ∧ lead ≤ FloatStyle.plain.greatest then
        some (.finite negative (d * tenTo (p + 1).toNat) (-1))
      else some (.finite negative d p)
  | _ => none

/-- The number that a value is or writes out. Truth values are no numbers. -/
def Value.toDecimal? : Value → Option Decimal
  | .int n => some (.ofInt n)
  | .float x => x.toDecimal?
  | .decimal d => if d.isFinite then some d else none
  | .text s => (Numeral.read? s.toList).bind Decimal.ofNumeral?
  | _ => none

end RecordRules
