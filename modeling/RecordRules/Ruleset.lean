import RecordRules.Declaration
import RecordRules.Value.Text

/-!
# Rule sets

A rule set gives each field its invocations, fields and invocations in order. It is written as
declarations, one value per field: a text with all rules of the field, or a list or tuple of single
rules, each a text or a ready-made invocation.
-/

namespace RecordRules

/-- Fields with their rules, in the order of declaration. -/
abbrev Ruleset := List (String × List Invocation)

/-- Fields with their declarations as written. -/
abbrev Declarations := List (String × Value)

/-- Declarations that do not make a rule set: one of them is malformed, or it cannot even be shown
in an error message. -/
inductive RulesetError
  | malformed (e : Malformed)
  | unshowable (e : TooLong)
  deriving DecidableEq, Repr

/-- The error for a value that cannot stand in a declaration. -/
def RulesetError.unsupported (v : Value) (flaw : Flaw) : RulesetError :=
  match v.shown with
  | .ok s => .malformed ⟨s, flaw⟩
  | .error e => .unshowable e

/-- Reads one entry of a list of rules. -/
def parseEntry (field : String) : Value → Except RulesetError Invocation
  | .rule i => .ok i
  | .text s => (parseRule s).mapError .malformed
  | v => .error (.unsupported v (.unsupportedEntry field))

/-- Reads the declaration of a field. -/
def parseDeclaration (field : String) : Value → Except RulesetError (List Invocation)
  | .text s => (parseRules s).mapError .malformed
  | .list entries | .tuple entries => entries.mapM (parseEntry field)
  | v => .error (.unsupported v (.unsupportedDeclaration field))

/-- Reads the declarations of all fields, in order. -/
def parseRuleset (declarations : Declarations) : Except RulesetError Ruleset :=
  declarations.mapM fun (field, v) => do
    let invocations ← parseDeclaration field v
    return (field, invocations)

/-- A rule set written as declarations: each field with the list of its invocations. -/
def Ruleset.declarations (rules : Ruleset) : Declarations :=
  rules.map fun (field, invocations) => (field, .list (invocations.map .rule))

end RecordRules
