import RecordRules.Builtin
import RecordRules.Proofs.Traversal

/-!
# What the rules of the library have in common

Two of the rules want something to be there. Each of the others passes a blank field and asks a
question about any other value: `Check.asking` is the check of such a rule. `Builtin.Asks` says on
what the answer depends and when there is none, and `Builtin.Kind` puts every rule into one of three
kinds. `Builtin.kind_of_mem` goes through the list of rules, one line for each; whatever holds of all
rules is derived from it by these three cases, on any host.
-/

namespace RecordRules

/-- Values that rules do not tell apart: equal ones, and blank ones of any form. -/
def Value.Alike (v w : Value) : Prop := v = w ∨ v.isBlank ∧ w.isBlank

/-- An integer that has too many digits to be written. -/
def Value.isUnwritable : Value → Bool
  | int n => Number.digitLimit < Number.digitCount n.natAbs
  | _ => false

/-- The check of a rule that asks a question about any value that is not blank. When the answer is
no, the failure shows what `shown` makes of the parameter. -/
def Check.asking (rule : String) (shown : Option String → Value)
    (holds : String → Record → Option String → Except Cause Bool) : Check :=
  fun field record param =>
    if (record.value field).isBlank then .ok none
    else (holds field record param).map fun ok =>
      if ok then none else some ⟨field, record.value field, rule, shown param⟩

namespace Builtin

/-! ## Parameters -/

/-- What a rule demands of its parameter. -/
inductive Demand
  | nothing
  | text
  | integer
  | pattern
  deriving DecidableEq, Repr

/-- A parameter is as demanded. -/
def Demand.isMet (demand : Demand) (host : Host) (param : Option String) : Bool :=
  match demand with
  | nothing => true
  | text => param.isSome
  | integer => (param.bind fun p => Number.readInteger? p.toList).isSome
  | pattern => param.any fun p => (Pattern.ofParam p.toList host.patterns).isOk

@[simp] theorem Demand.isMet_nothing (host : Host) (param : Option String) :
    nothing.isMet host param = true := rfl

@[simp] theorem Demand.isMet_text (host : Host) (param : Option String) :
    text.isMet host param = param.isSome := rfl

/-- The demand of a rule by its name. -/
def demand : String → Demand
  | "contains" | "contains_list" | "doesnt_contain_list" | "starts" | "equalsfield"
  | "extension" => .text
  | "max_len" | "min_len" | "exact_len" | "valid_array_size_greater" | "valid_array_size_lesser"
  | "valid_array_size_equal" | "min_age" => .integer
  | "regex" => .pattern
  | _ => .nothing

/-- The parameter that the failures of a rule show: the words or items that were read from it, the
trimmed name of a field, or the parameter as it was given. -/
def shown (name : String) (param : Option String) : Value :=
  match name with
  | "contains" => (param.map fun p => Check.listParam (Parameter.words p)).getD .null
  | "contains_list" | "doesnt_contain_list" | "extension" =>
    (param.map fun p => Check.listParam (Parameter.items p)).getD .null
  | "equalsfield" => (param.map fun p => .text (Text.trimmed p)).getD .null
  | _ => paramValue param

/-- The other field that a rule reads. -/
def partner? (name : String) (param : Option String) : Option String :=
  if name = "equalsfield" then param.map Text.trimmed else none

/-! ## Values beyond a limit -/

/-- What keeps the check of a rule from an answer though the parameter is as demanded. -/
inductive Limit
  | nothing
  /-- The value has no text: it is an integer with too many digits. -/
  | text
  /-- The value is the text of an integer with too many digits. -/
  | integer
  /-- The value has the form of an account number with too many digits. -/
  | account
  /-- The value is a text on which the package for addresses gives up. -/
  | address
  /-- The value is a JSON text that passes a limit of the reader. -/
  | json
  /-- The value is a text, to be read as a date in a format that makes no pattern. -/
  | format
  deriving DecidableEq, Repr

/-- A format of dates makes no pattern to read dates with. -/
def isBrokenFormat (format : String) : Bool :=
  (Calendar.Format.ofText? format.toList).any fun f =>
    !(Pattern.Tree.read { ignoreCase := true } f.pattern).isOk

/-- A text is a signed integer without leading zeros and has too many digits to be read. -/
def isLongInteger (s : List Char) : Bool :=
  let digits := (Number.splitSign (Text.trim s)).2
  Check.isCanonical digits && Number.digitLimit < digits.length

/-- A text has the form of an account number and makes a number with too many digits. -/
def isLongAccount (s : List Char) : Bool :=
  (Check.ibanShape s.length).fits s && Number.digitLimit < (Check.ibanNumber s).length

/-- The JSON reader gives up on a text because of a limit. -/
def isBeyondJson (depthLimit : Nat) (s : List Char) : Bool :=
  match Json.read depthLimit s with
  | .error (.limit _) => true
  | _ => false

/-- The limit is passed by a value. -/
def Limit.isPassed (limit : Limit) (host : Host) (v : Value) (param : Option String) : Bool :=
  match limit, v with
  | .text, v => v.isUnwritable
  | .integer, .text s => isLongInteger s.toList
  | .account, .text s => isLongAccount s.toList
  | .address, .text s => !(host.isEmail s).isOk
  | .json, .text s => isBeyondJson host.jsonDepth s.toList
  | .format, .text _ => (Check.formats param).any isBrokenFormat
  | _, _ => false

@[simp] theorem Limit.isPassed_nothing (host : Host) (v : Value) (param : Option String) :
    nothing.isPassed host v param = false := by cases v <;> rfl

@[simp] theorem Limit.isPassed_text (host : Host) (v : Value) (param : Option String) :
    text.isPassed host v param = v.isUnwritable := by cases v <;> rfl

/-- What can keep the check of a rule from an answer, by its name. -/
def limit : String → Limit
  | "contains" | "contains_list" | "doesnt_contain_list" | "starts" | "max_len" | "min_len"
  | "exact_len" | "alpha" | "alpha_numeric" | "alpha_dash" | "alpha_space" | "alpha_numeric_space"
  | "valid_name" | "street_address" | "valid_persian_name" | "valid_eng_per_pas_name"
  | "valid_persian_digit" | "valid_persian_text" | "valid_pashtu_text" | "phone_number" | "regex"
  | "valid_cc" => .text
  | "integer" => .integer
  | "iban" => .account
  | "valid_email" => .address
  | "valid_json_string" => .json
  | "date" => .format
  | _ => .nothing

/-- The comparison of a field with the other field that a rule reads has no answer. -/
def isIncomparable (host : Host) (name field : String) (record : Record) (param : Option String) :
    Bool :=
  (partner? name param).any fun other =>
    !(Check.equalFields host.comparisons record field other).isOk

/-- The value of a field is beyond a limit of the rule's check, or cannot be compared with that of
the other field. -/
def isBeyond (host : Host) (name field : String) (record : Record) (param : Option String) : Bool :=
  (limit name).isPassed host (record.value field) param ||
    isIncomparable host name field record param

/-- Only the rule that compares two fields can be without an answer for another reason than the value of
its field. -/
theorem isBeyond_eq_isPassed {host : Host} {name field : String} {record : Record}
    {param : Option String} (hname : name ≠ "equalsfield") : isBeyond host name field record param =
      (limit name).isPassed host (record.value field) param := by
  rw [isBeyond, isIncomparable, partner?, if_neg hname, Option.any_none, Bool.or_false]

/-! ## Kinds of rules -/

/-- The two rules that want something to be there. -/
def wantsPresence (name : String) : Bool := name == "required" || name == "required_file"

/-- The rules that ask about the value of their field alone. -/
def isSimple (name : String) : Bool := !wantsPresence name && name != "equalsfield"

/-- What a rule asks about a value that is not blank. -/
structure Asks (host : Host) (name : String)
    (holds : String → Record → Option String → Except Cause Bool) : Prop where
  /-- The answer depends on the value of the field and on the other field that the rule reads, but
  not on how that one is blank. -/
  reads : ∀ {field record record' param}, (record.value field).isBlank = false →
    record'.value field = record.value field →
    (∀ other ∈ partner? name param, (record.value other).Alike (record'.value other)) →
    holds field record' param = holds field record param
  /-- There is no answer when the parameter is not as demanded or the value is beyond a limit. -/
  raises : ∀ {field record param}, (record.value field).isBlank = false →
    (Raises (holds field record param) ↔
      (demand name).isMet host param = false ∨ isBeyond host name field record param = true)

/-- The kinds of rules in the library. -/
inductive Kind (host : Host) : String → Check → Prop
  | required : Kind host "required" Check.required
  | requiredFile : Kind host "required_file" (Check.requiredFile host.upload?)
  | optional {name check holds} : wantsPresence name = false →
      check = Check.asking name (shown name) holds → Asks host name holds → Kind host name check

end Builtin

end RecordRules
