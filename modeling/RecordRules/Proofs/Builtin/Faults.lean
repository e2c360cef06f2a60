import RecordRules.Host.Standard
import RecordRules.Proofs.Check.Iban
import RecordRules.Proofs.Check.Passing
import RecordRules.Proofs.Json.Limits
import RecordRules.Proofs.Number.Digits
import RecordRules.Proofs.Outcome
import RecordRules.Proofs.Value.Comparison

/-!
# When a routine of the library is at fault

A rule on a field that holds a value has no answer in two cases: its parameter is not as demanded, or
the value is beyond a limit (`Builtin.isUnanswerable`). `Registry.fault_on_present` says so of rules
and of whole evaluations, on every host. How a comparison of fields can be without an answer is said by
`Check.raises_equalFields_iff`.

Values of moderate size are within all limits (`Builtin.isBeyond_of_isModerate`), and on these only the
declarations decide whether there is a fault (`Registry.evaluate_fault_of_isModerate`), provided that
the host copes with values that are nested so deep. Beyond the limits the values decide as well. They
are too long, as in `Registry.evaluate_fault_by_value`, which has a rule set that one record brings to a
fault and another does not, or they are nested too deeply (`Registry.evaluate_json_of_nested`,
`Registry.evaluate_equalsField_of_nested`).
-/

namespace RecordRules

/-- A value of moderate size on a host: a text that is no longer than the containers in it may be
nested, and of which no number with too many digits can be made; or another value that is no integer
with too many digits, has no signaling decimals and holds containers nested at most so deep. -/
def Value.IsModerate (host : Host) (n : Nat) : Value → Prop
  | text s => s.toList.length ≤ host.jsonDepth ∧ 2 * s.toList.length ≤ Number.digitLimit
  | v => v.isUnwritable = false ∧ v.Tame n

/-- A host copes with values that are nested so deep: there is room for comparing them. Besides, no text
makes its package for addresses give up. -/
structure Host.Copes (host : Host) (n : Nat) : Prop where
  addresses : ∀ s, ¬Raises (host.isEmail s)
  comparisons : ∀ k ≤ n, ∀ v w, host.comparisons.allows k v w = true

namespace Builtin

/-- A declared rule has no answer on a record that holds a value in its field. -/
def isUnanswerable (host : Host) (record : Record) (rule : String × Invocation) : Bool :=
  !(demand rule.2.name).isMet host rule.2.param ||
    isBeyond host rule.2.name rule.1 record rule.2.param

section
variable {host : Host} {name field : String} {check : Check} {record : Record} {param : Option String}

/-- A rule that demands nothing of its parameter and has no limit has an answer always. -/
theorem isUnanswerable_of_nothing (hname : name ≠ "equalsfield") (hdemand : demand name = .nothing)
    (hlimit : limit name = .nothing) : isUnanswerable host record (field, ⟨name, param⟩) = false := by
  rw [isUnanswerable, hdemand, isBeyond_eq_isPassed hname, hlimit, Limit.isPassed_nothing]
  rfl

/-- On a field that holds a value, the check of a rule raises when the rule has no answer. -/
theorem Kind.raises_iff (h : Kind host name check) (hpresent : (record.value field).isBlank = false) :
    Raises (check field record param) ↔
      isUnanswerable host record (field, ⟨name, param⟩) = true := by
  cases h with
  | required =>
    have hanswer : isUnanswerable host record (field, ⟨"required", param⟩) = false :=
      isUnanswerable_of_nothing (by decide) rfl rfl
    simp [Check.required, hanswer]
  | requiredFile =>
    have hanswer : isUnanswerable host record (field, ⟨"required_file", param⟩) = false :=
      isUnanswerable_of_nothing (by decide) rfl rfl
    simp [Check.requiredFile, hanswer]
  | optional _ hcheck hasks =>
    rw [hcheck, Check.raises_asking_iff hpresent, hasks.raises hpresent, isUnanswerable,
      Bool.or_eq_true, Bool.not_eq_true']

end

/-! ## Values within the limits -/

section
variable {s : List Char}

/-- A text within the limit has no integer past it. -/
theorem isLongInteger_of_length_le (h : s.length ≤ Number.digitLimit) :
    isLongInteger s = false := by
  have hdigits : (Number.splitSign (Text.trim s)).2.length ≤ Number.digitLimit :=
    Nat.le_trans Number.length_splitSign_le (Nat.le_trans Text.length_trim_le h)
  simp [isLongInteger, hdigits]

/-- Every character makes two digits at most. -/
theorem length_ibanNumber_le : (Check.ibanNumber s).length ≤ 2 * s.length := by
  rw [Check.length_ibanNumber]
  exact Nat.le_trans Check.length_flatMap_ibanDigits_le
    (Nat.mul_le_mul_left 2 (List.length_filter_le _ s))

/-- Half of the limit suffices for an account number, since a letter counts as two digits. -/
theorem isLongAccount_of_length_le (h : 2 * s.length ≤ Number.digitLimit) :
    isLongAccount s = false := by
  have hdigits : (Check.ibanNumber s).length ≤ Number.digitLimit :=
    Nat.le_trans length_ibanNumber_le h
  simp [isLongAccount, hdigits]

/-- A text that is no longer than the depth to which containers may be nested passes no limit of the
reader, if no number with too many digits can be made of it. -/
theorem isBeyondJson_of_length_le {depthLimit : Nat} (h : s.length ≤ depthLimit)
    (hdigits : s.length ≤ Number.digitLimit) : isBeyondJson depthLimit s = false := by
  have hread : Json.Keeps (fun _ => True) (Json.read depthLimit s) :=
    Json.read_keeps hdigits (Nat.le_trans List.countP_le_length h)
  rw [isBeyondJson]
  split
  · next cause hlimit => exact absurd hlimit (hread.ne_limit cause)
  · rfl

end

end Builtin

section
variable {host : Host} {n : Nat} {v : Value}

/-- A value of moderate size can be written. -/
theorem Value.IsModerate.isUnwritable (h : v.IsModerate host n) : v.isUnwritable = false := by
  cases v with
  | text s => rfl
  | _ => exact h.1

/-- A value of moderate size is tame. -/
theorem Value.IsModerate.tame (h : v.IsModerate host n) : v.Tame n := by
  cases v with
  | text s => exact .single rfl rfl
  | _ => exact h.2

/-- Values of moderate size pass no limit, but for formats of dates that make no pattern. -/
theorem Builtin.Limit.isPassed_of_isModerate {limit : Limit} {param : Option String}
    (hhost : host.Copes n) (hv : v.IsModerate host n)
    (hformats : limit = .format → (Check.formats param).any isBrokenFormat = false) :
    limit.isPassed host v param = false := by
  cases limit with
  | nothing => exact isPassed_nothing host v param
  | text => rw [isPassed_text, hv.isUnwritable]
  | format =>
    cases v with
    | text s => exact hformats rfl
    | _ => rfl
  | integer =>
    cases v with
    | text s => exact isLongInteger_of_length_le (Nat.le_of_add_left_le (Nat.two_mul _ ▸ hv.2))
    | _ => rfl
  | account =>
    cases v with
    | text s => exact isLongAccount_of_length_le hv.2
    | _ => rfl
  | address =>
    cases v with
    | text s =>
      cases hanswer : host.isEmail s with
      | ok found => simp [isPassed, hanswer, Except.isOk, Except.toBool]
      | error cause => exact absurd ⟨cause, hanswer⟩ (hhost.addresses s)
    | _ => rfl
  | json =>
    cases v with
    | text s =>
      exact isBeyondJson_of_length_le hv.1 (Nat.le_of_add_left_le (Nat.two_mul _ ▸ hv.2))
    | _ => rfl

end

/-! ## Comparisons of fields -/

section
variable {room : Value.PairRoom} {record : Record} {field other : String}

/-- **The comparison of two fields has no answer** in two cases: the other field is the same one and holds
a signaling decimal, or its comparison with the field gets stuck. -/
theorem Check.raises_equalFields_iff : Raises (equalFields room record field other) ↔
    (other = field ∧ (record.value other).isSignaling = true) ∨
      (other ≠ field ∧ (record.value other).isNull = false ∧
        Value.Stuck room 0 (record.value other) (record.value field)) := by
  rw [equalFields]
  cases hnull : (record.value other).isNull with
  | true =>
    have hquiet : (record.value other).isSignaling = false := by
      cases hvalue : record.value other <;> simp_all [Value.isNull, Value.isSignaling]
    simp [hquiet]
  | false =>
    by_cases hsame : other = field
    · simp [hsame, equalsItself]
    · simp [hsame, Value.raises_compare_iff]

/-- Fields with tame values can be compared. -/
theorem Check.not_raises_equalFields {n : Nat} (hfield : (record.value field).Tame n)
    (hother : (record.value other).Tame n) (hroom : ∀ k ≤ n, ∀ v w, room.allows k v w = true) :
    ¬Raises (equalFields room record field other) := by
  rw [raises_equalFields_iff]
  rintro (⟨-, hsignaling⟩ | ⟨-, -, hstuck⟩)
  · rw [hother.not_isSignaling] at hsignaling
    cases hsignaling
  · exact hstuck.not_tame (by simpa using hroom) hother hfield

end

/-- Only the rule for dates has a format to fail on. -/
theorem Builtin.eq_date_of_limit {name : String} (h : limit name = .format) : name = "date" := by
  unfold limit at h
  split at h <;> first | rfl | cases h

section
variable {host : Host} {record : Record} {declarations : Declarations} {rules : Ruleset}
  {rule : String × Invocation}

/-- The routine of a rule on a field that holds a value raises when the rule has no answer. -/
theorem Registry.faults_iff (hpresent : (record.value rule.1).isBlank = false) :
    (builtins host).Faults record rule ↔
      (Builtin.check? host rule.2.name).isSome ∧ Builtin.isUnanswerable host record rule = true := by
  constructor
  · rintro ⟨check, hcheck, hraises⟩
    exact ⟨Option.isSome_of_eq_some hcheck, ((Builtin.kind hcheck).raises_iff hpresent).1 hraises⟩
  · rintro ⟨hknown, hunanswerable⟩
    obtain ⟨check, hcheck⟩ := Option.isSome_iff_exists.1 hknown
    exact ⟨check, hcheck, ((Builtin.kind hcheck).raises_iff hpresent).2 hunanswerable⟩

/-- An evaluation ends in a fault when every rule is known and one has a property, if that is what
makes the known rules be at fault. -/
theorem Registry.evaluate_fault_iff_exists {P : String × Invocation → Prop}
    (hparse : parseRuleset declarations = .ok rules)
    (hfaults : ∀ rule ∈ rules.flat, (builtins host).Faults record rule ↔
      (Builtin.check? host rule.2.name).isSome ∧ P rule) :
    (∃ e, (builtins host).evaluate record declarations = .error (.routine e)) ↔
      (∀ rule ∈ rules.flat, (Builtin.check? host rule.2.name).isSome) ∧
        ∃ rule ∈ rules.flat, P rule := by
  rw [evaluate_fault_iff]
  constructor
  · rintro ⟨rules', hparse', hknown, rule, hrule, hfault⟩
    obtain rfl : rules = rules' := Except.ok.inj (hparse.symm.trans hparse')
    exact ⟨hknown, rule, hrule, ((hfaults rule hrule).1 hfault).2⟩
  · rintro ⟨hknown, rule, hrule, h⟩
    exact ⟨rules, hparse, hknown, rule, hrule, (hfaults rule hrule).2 ⟨hknown rule hrule, h⟩⟩

/-- **On values the limits decide**: a rule on a field that holds a value is at fault when its
parameter is not as demanded or the value is beyond a limit, and so is an evaluation of known rules
when one of them is. -/
theorem Registry.fault_on_present :
    (∀ rule : String × Invocation, (record.value rule.1).isBlank = false →
      ((builtins host).Faults record rule ↔
        (Builtin.check? host rule.2.name).isSome ∧ Builtin.isUnanswerable host record rule = true)) ∧
    ∀ declarations rules, parseRuleset declarations = .ok rules →
      (∀ rule ∈ rules.flat, (record.value rule.1).isBlank = false) →
      ((∃ e, (builtins host).evaluate record declarations = .error (.routine e)) ↔
        (∀ rule ∈ rules.flat, (Builtin.check? host rule.2.name).isSome) ∧
          ∃ rule ∈ rules.flat, Builtin.isUnanswerable host record rule = true) :=
  ⟨fun _ => faults_iff, fun _ _ hparse hpresent =>
    evaluate_fault_iff_exists hparse fun rule hrule => faults_iff (hpresent rule hrule)⟩

/-- A parameter that is no integer brings any text to a fault. -/
theorem Registry.fault_on_present_notInteger :
    let host : Host := .standard ⟨2026, 6, 15, rfl⟩
    let record : Record := [("name", .text "x")]
    let declarations : Declarations := [("name", .text "alpha|max_len,x")]
    let rules : Ruleset := [("name", [⟨"alpha", none⟩, ⟨"max_len", some "x"⟩])]
    parseRuleset declarations = .ok rules ∧
      (∀ rule ∈ rules.flat, (record.value rule.1).isBlank = false) ∧
      ∃ e, (builtins host).evaluate record declarations = .error (.routine e) := by
  intro host record declarations rules
  have hparse : parseRuleset declarations = .ok rules := rfl
  have hpresent : ∀ rule ∈ rules.flat, (record.value rule.1).isBlank = false := by decide
  have hknown : ∀ rule ∈ rules.flat, (Builtin.check? host rule.2.name).isSome := by decide
  refine ⟨hparse, hpresent, ?_⟩
  rw [fault_on_present.2 declarations rules hparse hpresent]
  exact ⟨hknown, ("name", ⟨"max_len", some "x"⟩), by simp [rules, Ruleset.flat], rfl⟩

/-- On a record of moderate values no rule is beyond a limit, but for broken formats of dates. -/
theorem Builtin.isBeyond_of_isModerate {n : Nat} {name field : String} {param : Option String}
    (hhost : host.Copes n) (hmoderate : ∀ field, (record.value field).IsModerate host n)
    (hformats : name = "date" → (Check.formats param).any isBrokenFormat = false) :
    isBeyond host name field record param = false := by
  have hpassed : (limit name).isPassed host (record.value field) param = false :=
    Limit.isPassed_of_isModerate hhost (hmoderate field) fun h => hformats (eq_date_of_limit h)
  have hcomparable : isIncomparable host name field record param = false := by
    rw [isIncomparable, Option.any_eq_false]
    intro other _
    have hanswer := Check.not_raises_equalFields (hmoderate field).tame (hmoderate other).tame
      hhost.comparisons
    rwa [← Bool.not_eq_true, Bool.not_eq_true', isOk_eq_false_iff]
  rw [isBeyond, hpassed, hcomparable, Bool.or_false]

/-- **Within the limits the declarations decide**: on a record of moderate values an evaluation ends
in a fault when every rule is known and the parameter of one is not as demanded. -/
theorem Registry.evaluate_fault_of_isModerate {n : Nat} (hhost : host.Copes n)
    (hparse : parseRuleset declarations = .ok rules)
    (hpresent : ∀ rule ∈ rules.flat, (record.value rule.1).isBlank = false)
    (hmoderate : ∀ field, (record.value field).IsModerate host n)
    (hformats : ∀ rule ∈ rules.flat, rule.2.name = "date" →
      (Check.formats rule.2.param).any Builtin.isBrokenFormat = false) :
    (∃ e, (builtins host).evaluate record declarations = .error (.routine e)) ↔
      (∀ rule ∈ rules.flat, (Builtin.check? host rule.2.name).isSome) ∧
        ∃ rule ∈ rules.flat, (Builtin.demand rule.2.name).isMet host rule.2.param = false := by
  refine evaluate_fault_iff_exists hparse fun rule hrule => ?_
  have hbeyond : Builtin.isBeyond host rule.2.name rule.1 record rule.2.param = false :=
    Builtin.isBeyond_of_isModerate hhost hmoderate (hformats rule hrule)
  rw [faults_iff (hpresent rule hrule), Builtin.isUnanswerable, hbeyond, Bool.or_false,
    Bool.not_eq_true']

/-! ## Values beyond the limits -/

/-- An evaluation of one rule whose routine raises. -/
theorem Registry.evaluate_singleton_of_error {r : Registry Check} {field name : String}
    {param : Option String} {check : Check} {cause : Cause}
    (hparse : parseRuleset declarations = .ok [(field, [⟨name, param⟩])])
    (hcheck : r.get? name = some check) (hraised : check field record param = .error cause) :
    r.evaluate record declarations = .error (.routine ⟨field, name, cause⟩) := by
  have hresolved : List.Forall₂ r.Resolves (Ruleset.flat [(field, [⟨name, param⟩])])
      [⟨field, name, param, check⟩] := .cons ⟨rfl, rfl, rfl, hcheck⟩ .nil
  have hrun : Step.run ⟨field, name, param, check⟩ record = .error ⟨field, name, cause⟩ := by
    simp only [Step.run, hraised, Except.mapError]
  rw [evaluate_of_resolves hparse hresolved, Step.runAll_cons, hrun]
  rfl

/-- The check of a question about a text that has no answer. -/
theorem Check.ofTest_eq_error {field name s : String}
    {holds : Value → Option String → Except Cause Bool} {param : Option String} {cause : Cause}
    (hs : s.toList ≠ []) (hraised : holds (.text s) param = .error cause) :
    Check.ofTest name holds field [(field, .text s)] param = .error cause := by
  have hvalue : Record.value [(field, .text s)] field = .text s := by simp [Record.value]
  have hblank : (Record.value [(field, .text s)] field).isBlank = false := by
    rw [hvalue, Value.isBlank_text hs]
  rw [Check.ofTest_eq_asking]
  refine Check.asking_eq_error hblank ?_
  rw [hvalue, hraised]

/-- An integer without leading zeros and with too many digits brings `integer` to a fault. -/
theorem Registry.evaluate_integer_of_isCanonical {field s : String}
    (hs : Check.isCanonical s.toList = true) (hlong : Number.digitLimit < s.toList.length) :
    (builtins host).evaluate [(field, .text s)] [(field, .text "integer")] =
      .error (.routine ⟨field, "integer", .tooManyDigits s.toList.length⟩) := by
  have hparse : parseRuleset [(field, .text "integer")] = .ok [(field, [⟨"integer", none⟩])] := rfl
  have hcheck : (builtins host).get? "integer" = some Check.integer := rfl
  have hraised : Check.isInteger64 (.text s) = .error (.tooManyDigits s.toList.length) := by
    rw [Check.isInteger64, Check.isInteger64Text_of_isCanonical hs, if_pos hlong]
  exact evaluate_singleton_of_error hparse hcheck
    (Check.ofTest_eq_error (List.ne_nil_of_length_pos (Nat.zero_lt_of_lt hlong)) hraised)

/-- A text that opens too many arrays at once brings `valid_json_string` to a fault. -/
theorem Registry.evaluate_json_of_nested {field s : String} {n : Nat} {rest : List Char}
    (hs : s.toList = List.replicate n '[' ++ rest) (hdeep : host.jsonDepth < n) :
    (builtins host).evaluate [(field, .text s)] [(field, .text "valid_json_string")] =
      .error (.routine ⟨field, "valid_json_string", .nestedTooDeeply .array⟩) := by
  have hparse : parseRuleset [(field, .text "valid_json_string")] =
      .ok [(field, [⟨"valid_json_string", none⟩])] := rfl
  have hcheck : (builtins host).get? "valid_json_string" =
      some (Check.validJsonString host.jsonDepth) := rfl
  have hraised : Check.isJsonObject host.jsonDepth s.toList = .error (.nestedTooDeeply .array) := by
    rw [Check.isJsonObject, hs, Json.read_nested hdeep]
  have hne : s.toList ≠ [] := by
    rw [hs]
    exact List.append_ne_nil_of_left_ne_nil (by simp; omega) rest
  exact evaluate_singleton_of_error hparse hcheck (Check.ofTest_eq_error hne hraised)

/-- The rule `equalsfield` has no answer where the comparison of the fields has none. -/
theorem Check.equalsField_eq_error {room : Value.PairRoom} {a b : String} {cause : Cause}
    (hblank : (record.value a).isBlank = false) (hb : Text.trimmed b = b)
    (hraised : equalFields room record a b = .error cause) :
    equalsField room a record (some b) = .error cause := by
  rw [Builtin.equalsField_eq_asking]
  refine asking_eq_error hblank ?_
  show equalFields room record a (Text.trimmed b) = .error cause
  rw [hb, hraised]

/-- Two fields with values inside more lists than there is room for bring `equalsfield` to a fault. -/
theorem Registry.evaluate_equalsField_of_nested {v w : Value} {n k : Nat}
    (hfull : ∀ v w, host.comparisons.allows k v w = false) (hpos : 0 < k) (hdeep : k ≤ n) :
    ∃ e, (builtins host).evaluate [("a", v.nested n), ("b", w.nested n)]
      [("a", .text "equalsfield,b")] = .error (.routine e) := by
  have hparse : parseRuleset [("a", .text "equalsfield,b")] =
      .ok [("a", [⟨"equalsfield", some "b"⟩])] := rfl
  have hcheck : (builtins host).get? "equalsfield" = some (Check.equalsField host.comparisons) := rfl
  have hstuck : Value.Stuck host.comparisons 0 (w.nested n) (v.nested n) :=
    .of_raises (Value.raises_compare_nested hfull hpos (by omega))
  obtain ⟨m, rfl⟩ : ∃ m, n = m + 1 := Nat.exists_eq_succ_of_ne_zero (by omega)
  obtain ⟨cause, hraised⟩ : Raises (Check.equalFields host.comparisons
      [("a", v.nested (m + 1)), ("b", w.nested (m + 1))] "a" "b") := by
    rw [Check.raises_equalFields_iff]
    exact .inr ⟨by decide, rfl, hstuck⟩
  have htrimmed : Text.trimmed "b" = "b" := by decide
  refine ⟨⟨"a", "equalsfield", cause⟩, evaluate_singleton_of_error hparse hcheck ?_⟩
  exact Check.equalsField_eq_error rfl htrimmed hraised

/-- That the declarations decide alone is false: two texts are there, one is an integer of a digit,
the other one of 4301, and only the second brings `integer` to a fault. -/
theorem Registry.evaluate_fault_by_value :
    let host : Host := .standard ⟨2026, 6, 15, rfl⟩
    let declarations : Declarations := [("n", .text "integer")]
    let short : Record := [("n", .text "9")]
    let long : Record := [("n", .text (.ofList (List.replicate 4301 '9')))]
    (short.value "n").isBlank = false ∧ (long.value "n").isBlank = false ∧
      (builtins host).evaluate short declarations = .ok ⟨[]⟩ ∧
      (builtins host).evaluate long declarations =
        .error (.routine ⟨"n", "integer", .tooManyDigits 4301⟩) := by
  intro host declarations short long
  have htext : (String.ofList (List.replicate 4301 '9')).toList = List.replicate 4301 '9' :=
    String.toList_ofList
  have hcanonical : Check.isCanonical (String.ofList (List.replicate 4301 '9')).toList = true := by
    rw [htext]
    exact Check.isCanonical_nines
  have hlength : (String.ofList (List.replicate 4301 '9')).toList.length = 4301 := by
    rw [htext, List.length_replicate]
  have hlong : Number.digitLimit < (String.ofList (List.replicate 4301 '9')).toList.length := by
    rw [hlength]
    decide
  refine ⟨rfl, Value.isBlank_text (List.ne_nil_of_length_pos (Nat.zero_lt_of_lt hlong)), rfl, ?_⟩
  rw [← hlength]
  exact evaluate_integer_of_isCanonical hcanonical hlong

end

end RecordRules
