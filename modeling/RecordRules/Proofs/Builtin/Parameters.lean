import RecordRules.Host.Standard
import RecordRules.Proofs.Builtin.Faults
import RecordRules.Proofs.Number.Literal

/-!
# Faults of parameters

On a text most rules have an answer as soon as their parameter is as demanded: the limits that keep other
values from one do not concern texts (`Builtin.Limit.isPassed_text_of_not_concernsTexts`). So the
parameter alone decides whether such a rule is at fault. `Builtin.raises_on_text` names the rules that want
an integer, those that want a parameter of any form, the rule that wants a pattern and those that want
nothing, with what makes each of them raise.
-/

namespace RecordRules.Builtin

/-- The rules that count characters or items and want an integer as parameter. -/
def countingRules : List String :=
  ["max_len", "min_len", "exact_len", "valid_array_size_greater", "valid_array_size_lesser",
    "valid_array_size_equal"]

/-- The rules that compare with their parameter, whatever it is. -/
def comparingRules : List String :=
  ["contains", "contains_list", "doesnt_contain_list", "starts", "equalsfield", "extension"]

/-- The rules on the characters of a text. -/
def characterRules : List String :=
  ["alpha", "alpha_numeric", "alpha_dash", "alpha_space", "alpha_numeric_space", "valid_name",
    "street_address", "valid_persian_name", "valid_eng_per_pas_name", "valid_persian_digit",
    "valid_persian_text", "valid_pashtu_text"]

/-- The rules that have an answer for every text and parameter. -/
def steadyRules : List String :=
  ["required", "required_file", "boolean", "max_numeric", "min_numeric", "numeric", "float", "guidv4",
    "phone_number", "valid_cc"] ++ characterRules

/-- The limits that texts can pass. -/
def Limit.concernsTexts : Limit → Bool
  | .integer | .account | .address | .json | .format => true
  | .nothing | .text => false

/-- A text passes no limit that does not concern texts. -/
theorem Limit.isPassed_text_of_not_concernsTexts {limit : Limit} (h : limit.concernsTexts = false)
    (host : Host) (s : String) (param : Option String) :
    limit.isPassed host (.text s) param = false := by
  cases limit with
  | nothing | text => rfl
  | integer | account | address | json | format => cases h

/-- A text can be compared with every value. -/
theorem isIncomparable_text {host : Host} {name field s : String} {record : Record}
    {param : Option String} (htext : record.value field = .text s) :
    isIncomparable host name field record param = false := by
  rw [isIncomparable, Option.any_eq_false]
  intro other _
  have hanswer : ¬Raises (Check.equalFields host.comparisons record field other) := by
    rw [Check.raises_equalFields_iff, htext]
    rintro (⟨rfl, hsignaling⟩ | ⟨-, -, hstuck⟩)
    · rw [htext] at hsignaling
      cases hsignaling
    · exact hstuck.ne_text s rfl
  rwa [← Bool.not_eq_true, Bool.not_eq_true', isOk_eq_false_iff]

/-! ## Parameters that are not as demanded -/

section
variable {host : Host} {param : Option String}

/-- The demand for a parameter is not met when there is none. -/
theorem Demand.not_isMet_text_iff : text.isMet host param = false ↔ param = none := by
  cases param <;> simp

/-- An integer parameter is one that is read as an integer. -/
theorem Demand.not_isMet_integer_iff : integer.isMet host param = false ↔
    param = none ∨ ∃ p ∈ param, ¬∃ w : Number.Literal, w.text = Text.trim p.toList ∧
      w.digits.length ≤ Number.digitLimit := by
  cases param with
  | none => simp [isMet]
  | some p =>
    have hread : (∃ w : Number.Literal, w.text = Text.trim p.toList ∧
        w.digits.length ≤ Number.digitLimit) ↔ (Number.readInteger? p.toList).isSome = true := by
      simp [Option.isSome_iff_exists, Number.readInteger?_eq_some_iff]
    simp only [isMet, Option.bind_some, Option.mem_some_iff, exists_eq_left', hread]
    simp

/-- A pattern parameter is one that makes a pattern. -/
theorem Demand.not_isMet_pattern_iff : pattern.isMet host param = false ↔
    param = none ∨ ∃ p ∈ param, ∃ fault, Pattern.ofParam p.toList host.patterns = .error fault := by
  cases param with
  | none => simp [isMet]
  | some p => cases h : Pattern.ofParam p.toList host.patterns <;> simp [isMet, h, Except.isOk, Except.toBool]

end

/-! ## Rules that the parameter decides -/

section
variable {host : Host} {name field s : String} {record : Record} {param : Option String}
  {demanded : Demand}

/-- A rule of the library raises under a condition and only then. -/
def RaisesWhen (host : Host) (name field : String) (record : Record) (param : Option String)
    (condition : Prop) : Prop :=
  ∃ check, check? host name = some check ∧ (Raises (check field record param) ↔ condition)

/-- A condition may be put in other words. -/
theorem RaisesWhen.congr {condition condition' : Prop}
    (h : RaisesWhen host name field record param condition) (hiff : condition ↔ condition') :
    RaisesWhen host name field record param condition' := by
  obtain ⟨check, hcheck, hraises⟩ := h
  exact ⟨check, hcheck, hraises.trans hiff⟩

/-- A known rule with a demand that no text is beyond a limit of. -/
def isDecidedByParam (host : Host) (demanded : Demand) (name : String) : Bool :=
  (check? host name).isSome && demand name == demanded && !(limit name).concernsTexts

/-- A rule that the parameter decides raises on a text if the parameter is not as demanded. -/
theorem raisesWhen_of_isDecidedByParam (hname : isDecidedByParam host demanded name = true)
    (htext : record.value field = .text s) (hs : s ≠ "") :
    RaisesWhen host name field record param (demanded.isMet host param = false) := by
  have hpresent : (record.value field).isBlank = false := by
    rw [htext, Value.isBlank_text (mt String.toList_eq_nil_iff.1 hs)]
  simp only [isDecidedByParam, Bool.and_eq_true, Bool.not_eq_true', beq_iff_eq] at hname
  obtain ⟨⟨hknown, rfl⟩, hlimit⟩ := hname
  obtain ⟨check, hcheck⟩ := Option.isSome_iff_exists.1 hknown
  refine ⟨check, hcheck, ?_⟩
  rw [(kind hcheck).raises_iff hpresent, isUnanswerable, Bool.or_eq_true, Bool.not_eq_true', isBeyond,
    isIncomparable_text htext, htext, Limit.isPassed_text_of_not_concernsTexts hlimit]
  simp

/-- The rules that count want an integer. -/
theorem countingRules_isDecidedByParam (host : Host) :
    countingRules.all (isDecidedByParam host .integer) = true := rfl

/-- The rules that compare want a text. -/
theorem comparingRules_isDecidedByParam (host : Host) :
    comparingRules.all (isDecidedByParam host .text) = true := rfl

/-- The rule for expressions wants one that compiles. -/
theorem regex_isDecidedByParam (host : Host) : isDecidedByParam host .pattern "regex" = true := rfl

/-- The other rules want nothing. -/
theorem steadyRules_isDecidedByParam (host : Host) :
    steadyRules.all (isDecidedByParam host .nothing) = true := rfl

/-- **On texts the parameter decides**: the rules that count raise when the parameter is missing or, without
the white space around it, is no integer of up to 4300 digits; the rules that compare with their parameter
raise when it is missing; `regex` raises when it is missing or makes no pattern; and a number of rules,
among them those on characters, never raise. -/
theorem raises_on_text (htext : record.value field = .text s) (hs : s ≠ "") :
    (∀ name ∈ countingRules, RaisesWhen host name field record param
        (param = none ∨ ∃ p ∈ param, ¬∃ w : Number.Literal, w.text = Text.trim p.toList ∧
          w.digits.length ≤ 4300)) ∧
      (∀ name ∈ comparingRules, RaisesWhen host name field record param (param = none)) ∧
      RaisesWhen host "regex" field record param
        (param = none ∨ ∃ p ∈ param, ∃ fault, Pattern.ofParam p.toList host.patterns = .error fault) ∧
      ∀ name ∈ steadyRules, RaisesWhen host name field record param False := by
  refine ⟨fun name hname => ?_, fun name hname => ?_, ?_, fun name hname => ?_⟩
  · have hdecided := List.all_eq_true.1 (countingRules_isDecidedByParam host) name hname
    exact (raisesWhen_of_isDecidedByParam hdecided htext hs).congr Demand.not_isMet_integer_iff
  · have hdecided := List.all_eq_true.1 (comparingRules_isDecidedByParam host) name hname
    exact (raisesWhen_of_isDecidedByParam hdecided htext hs).congr Demand.not_isMet_text_iff
  · exact (raisesWhen_of_isDecidedByParam (regex_isDecidedByParam host) htext hs).congr
      Demand.not_isMet_pattern_iff
  · have hdecided := List.all_eq_true.1 (steadyRules_isDecidedByParam host) name hname
    exact (raisesWhen_of_isDecidedByParam hdecided htext hs).congr (by simp)

/-- On the text `x`, the integer ` +1_0 ` and the pattern `(` are parameters as demanded and not, a prefix
to start with is missing, and a rule on characters minds no parameter. -/
theorem raises_on_text_letter :
    let host : Host := .standard ⟨2026, 6, 15, rfl⟩
    let record : Record := [("name", .text "x")]
    (∃ check, check? host "max_len" = some check ∧ ¬Raises (check "name" record (some " +1_0 "))) ∧
      (∃ check, check? host "starts" = some check ∧ Raises (check "name" record none)) ∧
      (∃ check, check? host "regex" = some check ∧ Raises (check "name" record (some "("))) ∧
      ∃ check, check? host "alpha" = some check ∧ ¬Raises (check "name" record (some "(")) := by
  intro host record
  have htext : record.value "name" = .text "x" := rfl
  have hs : "x" ≠ "" := by decide
  let ten : Number.Literal :=
    { sign := .plus, groups := [['1'], ['0']]
      groups_ne_nil := by decide
      group_ne_nil := by decide
      isDecimalDigit := by simpa using ⟨rfl, rfl⟩ }
  have hten : ten.text = Text.trim " +1_0 ".toList := by decide
  refine ⟨?_, ?_, ?_, ?_⟩
  · have hmaxLen : RaisesWhen host "max_len" "name" record (some " +1_0 ") _ :=
      (raises_on_text htext hs).1 "max_len" (by decide)
    obtain ⟨check, hcheck, hraises⟩ := hmaxLen
    refine ⟨check, hcheck, fun h => ?_⟩
    rcases hraises.1 h with hmissing | ⟨p, ⟨rfl⟩, hnone⟩
    · cases hmissing
    · exact hnone ⟨ten, hten, by decide⟩
  · obtain ⟨check, hcheck, hraises⟩ := (raises_on_text htext hs).2.1 "starts" (by decide)
    exact ⟨check, hcheck, hraises.2 rfl⟩
  · obtain ⟨check, hcheck, hraises⟩ := (raises_on_text htext hs).2.2.1
    exact ⟨check, hcheck, hraises.2 (.inr ⟨"(", rfl, _, rfl⟩)⟩
  · obtain ⟨check, hcheck, hraises⟩ := (raises_on_text htext hs).2.2.2 "alpha" (by decide)
    exact ⟨check, hcheck, fun h => hraises.1 h⟩

end

end RecordRules.Builtin
