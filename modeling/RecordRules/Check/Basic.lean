import RecordRules.Pattern.Delimited
import RecordRules.Value.Text

/-!
# Checks

A check looks at one field of a record, with the parameter of the rule, and finds it in order or
reports a failure. It gives up with a `Cause` when the rule cannot be carried out: its parameter is
not as it should be, or the value is beyond a limit. `Check.optional` builds the checks that pass a
blank field.
-/

namespace RecordRules

/-- A field that does not satisfy a rule, with the parameter that a message shows. -/
structure Failure where
  field : String
  value : Value
  rule : String
  param : Value
  deriving Inhabited

/-- The kind of container in which a text is nested too deeply. -/
inductive Nesting
  | array
  | object
  deriving DecidableEq, Repr

/-- Why a check gives up. -/
inductive Cause
  | missingParam (rule : String)
  | notInteger (rule : String) (param : String)
  | pattern (pattern : String) (fault : Pattern.Fault)
  | tooLong (e : TooLong)
  | tooManyDigits (digits : Nat)
  | nestedTooDeeply (container : Nesting)
  | comparedTooDeeply
  | signalingNumber
  | raised (kind message : String)
  deriving DecidableEq

namespace Cause

/-- The word for the kind of a cause. -/
def kind : Cause → String
  | missingParam _ | notInteger .. | tooManyDigits _ => "ValueError"
  | tooLong e => e.kind
  | pattern _ (.malformed ..) => "error"
  | pattern _ .repetitionTooLarge => "OverflowError"
  | pattern _ .incompatibleClasses => "ValueError"
  | pattern _ .nestedTooDeeply => "RecursionError"
  | nestedTooDeeply _ | comparedTooDeeply => "RecursionError"
  | signalingNumber => "InvalidOperation"
  | raised kind _ => kind

/-- The wording of a cause. -/
def message : Cause → String
  | missingParam rule => s!"rule '{rule}' requires a parameter"
  | notInteger rule param => s!"rule '{rule}' expects an integer parameter, got " ++
      Text.quoted param
  | pattern text fault => fault.message text.toList
  | tooLong e => e.message
  | tooManyDigits digits =>
    s!"Exceeds the limit (4300 digits) for integer string conversion: value has {digits} digits; " ++
      "use sys.set_int_max_str_digits() to increase the limit"
  | nestedTooDeeply container =>
    "maximum recursion depth exceeded while decoding a JSON " ++
      (match container with | .array => "array" | .object => "object") ++
      " from a unicode string"
  | comparedTooDeeply => "maximum recursion depth exceeded in comparison"
  | signalingNumber => "[<class 'decimal.InvalidOperation'>]"
  | raised _ message => message

end Cause

/-- What a check finds: nothing to object to, or a failure. -/
abbrev Verdict := Except Cause (Option Failure)

/-- A check, given the field, the record and the parameter of the rule. -/
abbrev Check := String → Record → Option String → Verdict

/-- A parameter as a value. -/
def paramValue : Option String → Value
  | some s => .text s
  | none => .null

/-- What the inspection of a value finds: the value is in order, or it is not, with the parameter
to report. -/
inductive Finding
  | pass
  | fail (param : Value)

/-- The check of a rule that a blank field satisfies; any other value is inspected. -/
def Check.optional (rule : String)
    (inspect : Value → Record → Option String → Except Cause Finding) : Check :=
  fun field record param =>
    let v := record.value field
    if v.isBlank then .ok none
    else do
      match ← inspect v record param with
      | .pass => return none
      | .fail shown => return some ⟨field, v, rule, shown⟩

/-- The check of a rule that reports its parameter as it was given. -/
def Check.ofTest (rule : String) (holds : Value → Option String → Except Cause Bool) : Check :=
  Check.optional rule fun v _ param => do
    return if ← holds v param then .pass else .fail (paramValue param)

/-- The check of a rule on the text of scalar values. -/
def Check.ofText (rule : String) (holds : List Char → Bool) : Check :=
  Check.ofTest rule fun v _ => do
    let text ← v.scalarText.mapError .tooLong
    return text.any (holds ·.toList)

/-- The check of a rule that only texts can satisfy. -/
def Check.ofString (rule : String) (holds : List Char → Bool) : Check :=
  Check.ofTest rule fun v _ =>
    match v with
    | .text s => .ok (holds s.toList)
    | _ => .ok false

end RecordRules
