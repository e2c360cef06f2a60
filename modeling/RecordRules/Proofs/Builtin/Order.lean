import Mathlib.Data.List.Perm.Basic
import RecordRules.Host.Standard
import RecordRules.Proofs.Builtin.Failures
import RecordRules.Proofs.Grouping

/-!
# The order of declaration

In which order rules are declared decides which of them is complained about and in which order
failures come, but not whether there is a complaint, of what sort it is, or what fails
(`Registry.endsAlike_of_perm`). A rule of the library reports its failure under the field that
declares it, so a field whose own rules keep their order keeps the list of its failures
(`Registry.evaluate_perm`).
-/

namespace RecordRules

/-- Two evaluations end alike: both in a rule that is not known, both in a routine that gives up, or
both in a result, with the same failures in any order. -/
inductive EndsAlike : Except EvaluationError Result → Except EvaluationError Result → Prop
  | unknownRule {e e'} : EndsAlike (.error (.unknownRule e)) (.error (.unknownRule e'))
  | routine {e e'} : EndsAlike (.error (.routine e)) (.error (.routine e'))
  | ok {result result'} : result.failures.Perm result'.failures →
      EndsAlike (.ok result) (.ok result')

/-- The rules of one field in their order. -/
def Ruleset.ofField (rules : Ruleset) (field : String) : List (String × Invocation) :=
  rules.flat.filter (·.1 = field)

section
variable {r : Registry Check} {host : Host} {record : Record}
  {declarations declarations' : Declarations} {rules rules' : Ruleset}

/-! ## Any order of the rules -/

/-- A rule has one answer. -/
theorem Registry.answers_rightUnique : Relator.RightUnique (r.Answers record) := by
  rintro rule answer answer' ⟨check, hcheck, hanswer⟩ ⟨check', hcheck', hanswer'⟩
  obtain rfl : check = check' := Option.some.inj (hcheck.symm.trans hcheck')
  exact Except.ok.inj (hanswer.symm.trans hanswer')

/-- **The order of declaration does not decide how an evaluation ends**: rule sets with the same
rules end alike. -/
theorem Registry.endsAlike_of_perm (hparse : parseRuleset declarations = .ok rules)
    (hparse' : parseRuleset declarations' = .ok rules') (hperm : rules.flat.Perm rules'.flat) :
    EndsAlike (r.evaluate record declarations) (r.evaluate record declarations') := by
  cases hend : r.evaluate record declarations with
  | ok result =>
    obtain ⟨_, answers, hparsed, hanswers, hfailures⟩ := evaluate_eq_ok_iff.1 hend
    cases hparse.symm.trans hparsed
    obtain ⟨answers', hanswers', hpermuted⟩ := List.perm_comp_forall₂ hperm.symm hanswers
    rw [evaluate_eq_ok_iff.2 ⟨rules', answers', hparse', hanswers', rfl⟩]
    refine .ok ?_
    rw [hfailures]
    exact (hpermuted.filterMap id).symm
  | error e =>
    cases e with
    | ruleset e => cases hparse.symm.trans (evaluate_rejected_iff.1 hend)
    | unknownRule e =>
      obtain ⟨_, hparsed, rule, hrule, hmissing⟩ := evaluate_unknown_iff.1 ⟨e, hend⟩
      cases hparse.symm.trans hparsed
      obtain ⟨e', hend'⟩ := evaluate_unknown_iff.2
        ⟨rules', hparse', rule, hperm.mem_iff.1 hrule, hmissing⟩
      rw [hend']
      exact .unknownRule
    | routine e =>
      obtain ⟨_, hparsed, hknown, rule, hrule, hfaults⟩ := evaluate_fault_iff.1 ⟨e, hend⟩
      cases hparse.symm.trans hparsed
      obtain ⟨e', hend'⟩ := evaluate_fault_iff.2 ⟨rules', hparse',
        fun rule hrule => hknown rule (hperm.mem_iff.2 hrule), rule, hperm.mem_iff.1 hrule, hfaults⟩
      rw [hend']
      exact .routine

/-! ## The failures of a field -/

/-- The failures of a field are those of the rules of the field. -/
theorem Registry.exists_answers_ofField {flat : List (String × Invocation)}
    {answers : List (Option Failure)} (field : String)
    (h : List.Forall₂ ((builtins host).Answers record) flat answers) :
    ∃ own, List.Forall₂ ((builtins host).Answers record) (flat.filter (·.1 = field)) own ∧
      answers.reduceOption.filter (·.field = field) = own.reduceOption := by
  induction h with
  | nil => exact ⟨[], .nil, rfl⟩
  | @cons rule answer flat answers hanswer _ ih =>
    obtain ⟨own, hown, heq⟩ := ih
    have hfield : ∀ f, answer = some f → f.field = rule.1 := fun f hf => by
      rw [hanswer.eq_report hf, Builtin.report]
    by_cases h : rule.1 = field
    · refine ⟨answer :: own, ?_, ?_⟩
      · rw [List.filter_cons_of_pos (by simpa using h)]
        exact .cons hanswer hown
      · cases answer with
        | none => simpa using heq
        | some f => simp [heq, hfield f rfl, h]
    · refine ⟨own, ?_, ?_⟩
      · rwa [List.filter_cons_of_neg (by simpa using h)]
      · cases answer with
        | none => simpa using heq
        | some f => simp [heq, hfield f rfl, h]

/-- The failures of a field in the results of two rule sets that declare the same rules for it. -/
theorem Registry.filter_failures_eq {result result' : Result} {field : String}
    (hparse : parseRuleset declarations = .ok rules)
    (hparse' : parseRuleset declarations' = .ok rules')
    (hfield : rules.ofField field = rules'.ofField field)
    (h : (builtins host).evaluate record declarations = .ok result)
    (h' : (builtins host).evaluate record declarations' = .ok result') :
    result.failures.filter (·.field = field) = result'.failures.filter (·.field = field) := by
  obtain ⟨_, answers, hparsed, hanswers, hfailures⟩ := evaluate_eq_ok_iff.1 h
  obtain ⟨_, answers', hparsed', hanswers', hfailures'⟩ := evaluate_eq_ok_iff.1 h'
  cases hparse.symm.trans hparsed
  cases hparse'.symm.trans hparsed'
  obtain ⟨own, hown, heq⟩ := exists_answers_ofField field hanswers
  obtain ⟨own', hown', heq'⟩ := exists_answers_ofField field hanswers'
  rw [Ruleset.ofField, Ruleset.ofField] at hfield
  rw [← hfield] at hown'
  rw [hfailures, hfailures', heq, heq', answers_rightUnique.forall₂ hown hown']

/-- **The order of declaration decides little.** Rule sets with the same rules, each as often as in
the other, end alike on every record, and in two results the failures of a field are the same list
when the field's own rules stand in the same order. -/
theorem Registry.evaluate_perm (hparse : parseRuleset declarations = .ok rules)
    (hparse' : parseRuleset declarations' = .ok rules') (hperm : rules.flat.Perm rules'.flat) :
    EndsAlike ((builtins host).evaluate record declarations)
        ((builtins host).evaluate record declarations') ∧
      ∀ result result', (builtins host).evaluate record declarations = .ok result →
        (builtins host).evaluate record declarations' = .ok result' →
        ∀ field, rules.ofField field = rules'.ofField field →
          result.byField.lookup field = result'.byField.lookup field := by
  refine ⟨endsAlike_of_perm hparse hparse' hperm, fun result result' h h' field hfield => ?_⟩
  rw [Result.lookup_byField, Result.lookup_byField,
    filter_failures_eq hparse hparse' hfield h h']

/-- The fields change places and one of them turns its rules around; the other one keeps the list
of its failures. -/
theorem Registry.evaluate_perm_turned :
    let host : Host := .standard ⟨2026, 6, 15, rfl⟩
    let record : Record := [("name", .text "x1"), ("size", .text "no")]
    let declarations : Declarations :=
      [("name", .text "alpha|max_len,1|alpha"), ("size", .text "integer|min_len,3|required")]
    let declarations' : Declarations :=
      [("size", .text "min_len,3|required|integer"), ("name", .text "alpha|max_len,1|alpha")]
    let rules : Ruleset :=
      [("name", [⟨"alpha", none⟩, ⟨"max_len", some "1"⟩, ⟨"alpha", none⟩]),
        ("size", [⟨"integer", none⟩, ⟨"min_len", some "3"⟩, ⟨"required", none⟩])]
    let rules' : Ruleset :=
      [("size", [⟨"min_len", some "3"⟩, ⟨"required", none⟩, ⟨"integer", none⟩]),
        ("name", [⟨"alpha", none⟩, ⟨"max_len", some "1"⟩, ⟨"alpha", none⟩])]
    parseRuleset declarations = .ok rules ∧ parseRuleset declarations' = .ok rules' ∧
      rules.flat.Perm rules'.flat ∧ rules.ofField "name" = rules'.ofField "name" ∧
      EndsAlike ((builtins host).evaluate record declarations)
        ((builtins host).evaluate record declarations') ∧
      ∃ result result', (builtins host).evaluate record declarations = .ok result ∧
        (builtins host).evaluate record declarations' = .ok result' ∧
        result.failures.length = 5 ∧
        result.byField.lookup "name" = result'.byField.lookup "name" := by
  intro host record declarations declarations' rules rules'
  have hparse : parseRuleset declarations = .ok rules := rfl
  have hparse' : parseRuleset declarations' = .ok rules' := rfl
  have hperm : rules.flat.Perm rules'.flat := by decide
  have hfield : rules.ofField "name" = rules'.ofField "name" := by decide
  obtain ⟨hends, hgroups⟩ :=
    @evaluate_perm host record _ _ _ _ hparse hparse' hperm
  exact ⟨hparse, hparse', hperm, hfield, hends, _, _, rfl, rfl, rfl,
    hgroups _ _ rfl rfl "name" hfield⟩

end

end RecordRules
