import RecordRules.Host.Standard
import RecordRules.Proofs.Check.Passing
import RecordRules.Proofs.Outcome

/-!
# The failures that the rules of the library report

`Builtin.report` is the failure that a rule reports on a record. A check that fails reports exactly
that (`Builtin.Kind.eq_report`), and on a blank field only the two rules that want something to be
there fail (`Builtin.Kind.check_blank`). For a whole evaluation this means that every failure belongs
to a rule of its own, in the order of declaration (`Registry.failures_accounted`), and that blank
fields have no other failures than those of the two rules (`Registry.evaluate_blank`).
-/

namespace RecordRules

namespace Builtin

/-- The failure that a rule reports when its check fails. -/
def report (record : Record) (rule : String × Invocation) : Failure where
  field := rule.1
  value := if rule.2.name = "required" then .null else record.value rule.1
  rule := rule.2.name
  param := shown rule.2.name rule.2.param

variable {host : Host} {name field : String} {check : Check} {record : Record} {param : Option String}

/-- A check that fails reports the failure of its rule. -/
theorem Kind.eq_report (h : Kind host name check) {f : Failure}
    (hfail : check field record param = .ok (some f)) :
    f = report record (field, ⟨name, param⟩) := by
  cases h with
  | required =>
    rw [Check.required] at hfail
    split at hfail
    · cases hfail
      rfl
    · cases hfail
  | requiredFile =>
    simp only [Check.requiredFile] at hfail
    split at hfail
    · cases hfail
    · cases hfail
      rfl
  | optional hname hcheck _ =>
    have hvalue : name ≠ "required" := by
      rintro rfl
      cases hname
    rw [hcheck] at hfail
    rw [Check.eq_of_asking_eq_some hfail, report, if_neg hvalue]

/-- A blank value is no upload. -/
theorem ofValue?_of_isBlank {v : Value} {make? : List (Value × Value) → Option Upload}
    (h : v.isBlank = true) : Upload.ofValue? v make? = none := by
  cases v with
  | dict entries =>
    obtain rfl : entries = [] := by simpa [Value.isBlank, Value.isNull, Value.isEmpty] using h
    rfl
  | upload u => cases h
  | _ => rfl

/-- On a blank field the rules that want something to be there fail, and no other does. -/
theorem Kind.check_blank (h : Kind host name check) (hblank : (record.value field).isBlank = true) :
    check field record param =
      .ok (if wantsPresence name then some (report record (field, ⟨name, param⟩)) else none) := by
  cases h with
  | required => simp [Check.required, hblank, wantsPresence, report, shown]
  | requiredFile =>
    simp [Check.requiredFile, ofValue?_of_isBlank hblank, wantsPresence, report, shown]
  | optional hname hcheck _ =>
    rw [hcheck, Check.asking_of_isBlank hblank, hname]
    rfl

end Builtin

/-! ## Evaluations -/

section
variable {host : Host} {record : Record} {declarations : Declarations} {rules : Ruleset}
  {rule : String × Invocation} {answer : Option Failure}

/-- The failure in the answer to a rule is the one that the rule reports. -/
theorem Registry.Answers.eq_report (h : (builtins host).Answers record rule answer) {f : Failure}
    (hfail : answer = some f) : f = Builtin.report record rule := by
  obtain ⟨check, hcheck, hanswer⟩ := h
  exact (Builtin.kind hcheck).eq_report (hfail ▸ hanswer)

/-- Every rule of the library has an answer on a blank field. -/
theorem Registry.answers_of_blank (hknown : (Builtin.check? host rule.2.name).isSome)
    (hblank : (record.value rule.1).isBlank = true) :
    (builtins host).Answers record rule
      (if Builtin.wantsPresence rule.2.name then some (Builtin.report record rule) else none) := by
  obtain ⟨check, hcheck⟩ := Option.isSome_iff_exists.1 hknown
  exact ⟨check, hcheck, (Builtin.kind hcheck).check_blank hblank⟩

/-- Answers that are absent or made from their items are made from a sublist of the items. -/
theorem exists_sublist_of_answers {α β : Type} {f : α → β} {items : List α}
    {answers : List (Option β)}
    (h : List.Forall₂ (fun a answer => ∀ b, answer = some b → b = f a) items answers) :
    ∃ kept : List α, kept.Sublist items ∧ answers.reduceOption = kept.map f := by
  induction h with
  | nil => exact ⟨[], .slnil, rfl⟩
  | @cons a answer _ _ hanswer _ ih =>
    obtain ⟨kept, hkept, heq⟩ := ih
    cases answer with
    | none => exact ⟨kept, hkept.cons a, heq⟩
    | some b =>
      obtain rfl := hanswer b rfl
      exact ⟨a :: kept, hkept.cons_cons a, by simp [List.reduceOption_cons_of_some, heq]⟩

/-- What is kept of items under a condition is a filter. -/
theorem reduceOption_map_ite {α β : Type} (p : α → Bool) (f : α → β) (items : List α) :
    (items.map fun a => if p a then some (f a) else none).reduceOption =
      (items.filter p).map f := by
  induction items with
  | nil => rfl
  | cons a rest ih =>
    cases h : p a <;>
      simp [h, ih, List.reduceOption_cons_of_some, List.reduceOption_cons_of_none]

/-- **Every failure is accounted for.** When an evaluation succeeds, its failures are what some of
the declared rules report, in the order of declaration and each rule at most once. -/
theorem Registry.failures_accounted {result : Result}
    (h : (builtins host).evaluate record declarations = .ok result) :
    ∃ (rules : Ruleset) (failing : List (String × Invocation)),
      parseRuleset declarations = .ok rules ∧ failing.Sublist rules.flat ∧
        result.failures = failing.map (Builtin.report record) := by
  obtain ⟨rules, answers, hparse, hanswers, hfailures⟩ := evaluate_eq_ok_iff.1 h
  obtain ⟨failing, hfailing, heq⟩ :=
    exists_sublist_of_answers (hanswers.imp fun rule answer hanswer _ => hanswer.eq_report)
  exact ⟨rules, failing, hparse, hfailing, hfailures.trans heq⟩

/-- A failure shows the items of a list, and a field without a comparable one fails too. -/
theorem Registry.failures_accounted_items :
    let host : Host := .standard ⟨2026, 6, 15, rfl⟩
    let record : Record := [("color", .text "x")]
    let declarations : Declarations :=
      [("color", .text "contains_list, Red;;blue|alpha|equalsfield, shade "),
        ("size", .text "alpha|required,now")]
    let result : Result :=
      ⟨[⟨"color", .text "x", "contains_list", .list [.text "red", .text "blue"]⟩,
        ⟨"color", .text "x", "equalsfield", .text "shade"⟩,
        ⟨"size", .null, "required", .text "now"⟩]⟩
    (builtins host).evaluate record declarations = .ok result ∧
      ∃ (rules : Ruleset) (failing : List (String × Invocation)),
        parseRuleset declarations = .ok rules ∧ failing.Sublist rules.flat ∧
          result.failures = failing.map (Builtin.report record) := by
  intro host record declarations result
  have hresult : (builtins host).evaluate record declarations = .ok result := rfl
  exact ⟨hresult, failures_accounted hresult⟩

/-- **Blank fields fail on presence only.** A rule set whose fields are all blank is evaluated
without a fault, and its failures are those of the rules that want something to be there, in the
order of declaration and as often as they are declared. -/
theorem Registry.evaluate_blank (hparse : parseRuleset declarations = .ok rules)
    (hknown : ∀ rule ∈ rules.flat, (Builtin.check? host rule.2.name).isSome)
    (hblank : ∀ rule ∈ rules.flat, (record.value rule.1).isBlank = true) :
    (builtins host).evaluate record declarations =
      .ok ⟨(rules.flat.filter fun rule => Builtin.wantsPresence rule.2.name).map
        (Builtin.report record)⟩ := by
  refine evaluate_eq_ok_iff.2 ⟨rules, rules.flat.map fun rule =>
    if Builtin.wantsPresence rule.2.name then some (Builtin.report record rule) else none,
    hparse, ?_, ?_⟩
  · rw [List.forall₂_map_right_iff, List.forall₂_same]
    exact fun rule hrule => answers_of_blank (hknown rule hrule) (hblank rule hrule)
  · exact (reduceOption_map_ite _ _ _).symm

/-- Malformed and missing parameters do not matter on blank fields, and a rule that is declared
twice fails twice. -/
theorem Registry.evaluate_blank_malformed :
    let host : Host := .standard ⟨2026, 6, 15, rfl⟩
    let record : Record := [("name", .text ""), ("photo", .dict [])]
    let declarations : Declarations :=
      [("name", .text "required|max_len|regex,(|required,now"), ("photo", .text "required_file"),
        ("born", .text "date,%Y%Y|min_age,x|required")]
    let rules : Ruleset :=
      [("name", [⟨"required", none⟩, ⟨"max_len", none⟩, ⟨"regex", some "("⟩,
          ⟨"required", some "now"⟩]),
        ("photo", [⟨"required_file", none⟩]),
        ("born", [⟨"date", some "%Y%Y"⟩, ⟨"min_age", some "x"⟩, ⟨"required", none⟩])]
    parseRuleset declarations = .ok rules ∧
      (∀ rule ∈ rules.flat, (Builtin.check? host rule.2.name).isSome) ∧
      (∀ rule ∈ rules.flat, (record.value rule.1).isBlank = true) ∧
      (builtins host).evaluate record declarations =
        .ok ⟨[⟨"name", .null, "required", .null⟩, ⟨"name", .null, "required", .text "now"⟩,
          ⟨"photo", .dict [], "required_file", .null⟩, ⟨"born", .null, "required", .null⟩]⟩ := by
  intro host record declarations rules
  have hparse : parseRuleset declarations = .ok rules := rfl
  have hknown : ∀ rule ∈ rules.flat, (Builtin.check? host rule.2.name).isSome := by decide
  have hblank : ∀ rule ∈ rules.flat, (record.value rule.1).isBlank = true := by decide
  exact ⟨hparse, hknown, hblank, evaluate_blank hparse hknown hblank⟩

end

end RecordRules
