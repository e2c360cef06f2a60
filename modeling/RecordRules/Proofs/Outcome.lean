import RecordRules.Proofs.Evaluation

/-!
# How an evaluation ends

Without its steps, an evaluation is described rule by rule: `Registry.Answers` relates a declared
rule to what its routine answers on a record. An evaluation succeeds when every rule has an answer
(`Registry.evaluate_eq_ok_iff`), and a routine is at fault when every rule is known and one of them
raises (`Registry.evaluate_fault_iff`). Declarations that make no rule set and rules without a
routine end every evaluation (`Registry.evaluate_rejected_iff`, `Registry.evaluate_unknown_iff`).
The steps are the same for every record (`Registry.evaluate_of_resolves`).
-/

namespace RecordRules

section
variable {r : Registry Check} {record : Record} {declarations : Declarations} {rules : Ruleset}
  {rule : String × Invocation} {s : Step} {steps : List Step}

/-- The routine of a declared rule gives an answer. -/
def Registry.Answers (r : Registry Check) (record : Record) (rule : String × Invocation)
    (answer : Option Failure) : Prop :=
  ∃ check, r.get? rule.2.name = some check ∧ check rule.1 record rule.2.param = .ok answer

/-- The routine of a declared rule raises. -/
def Registry.Faults (r : Registry Check) (record : Record) (rule : String × Invocation) : Prop :=
  ∃ check, r.get? rule.2.name = some check ∧ Raises (check rule.1 record rule.2.param)

/-- A step calls its routine on the field and with the parameter of the rule. -/
theorem Registry.Resolves.verdict (h : r.Resolves rule s) :
    s.verdict record = s.check rule.1 record rule.2.param := by
  rw [Step.verdict, h.field, h.param]

/-- Rules that are all known have steps. -/
theorem Registry.exists_resolves (h : ∀ rule ∈ rules.flat, (r.get? rule.2.name).isSome) :
    ∃ steps, List.Forall₂ r.Resolves rules.flat steps := by
  cases hplan : r.plan rules with
  | ok steps => exact ⟨steps, plan_eq_ok_iff.1 hplan⟩
  | error e =>
    obtain ⟨before, field, i, after, hflat, -, hmissing, -⟩ := plan_eq_error_iff.1 hplan
    have hknown := h (field, i) (by rw [hflat]; simp)
    rw [hmissing] at hknown
    cases hknown

/-- An evaluation runs the steps of the declared rules, which do not depend on the record. -/
theorem Registry.evaluate_of_resolves (hparse : parseRuleset declarations = .ok rules)
    (h : List.Forall₂ r.Resolves rules.flat steps) :
    r.evaluate record declarations =
      ((Step.runAll record steps).mapError .routine).map Result.mk := by
  rw [evaluate_of_parsed hparse, evaluateParsed_of_plan (plan_eq_ok_iff.2 h)]

/-- A run raises when one of its steps does. -/
theorem Step.raises_runAll :
    Raises (runAll record steps) ↔ ∃ s ∈ steps, Raises (s.verdict record) := by
  constructor
  · rintro ⟨e, h⟩
    obtain ⟨before, s, after, rfl, -, cause, hraised, -⟩ := runAll_eq_error_iff.1 h
    exact ⟨s, by simp, cause, hraised⟩
  · rintro ⟨s, hs, cause, hraised⟩
    cases h : runAll record steps with
    | error e => exact raises_error e
    | ok failures =>
      obtain ⟨answers, hanswered, -⟩ := runAll_eq_ok_iff.1 h
      obtain ⟨answer, hanswer⟩ := exists_of_mem_items hanswered hs
      rw [hraised] at hanswer
      cases hanswer

/-- **Success**: every declared rule has an answer, and the failures among the answers are the
result. -/
theorem Registry.evaluate_eq_ok_iff {result : Result} :
    r.evaluate record declarations = .ok result ↔ ∃ rules answers,
      parseRuleset declarations = .ok rules ∧ List.Forall₂ (r.Answers record) rules.flat answers ∧
        result.failures = answers.reduceOption := by
  constructor
  · intro h
    obtain ⟨calls, outcome, hdescribed⟩ := r.exists_evaluates record declarations
    obtain ⟨-, houtcome⟩ := hdescribed.eq
    rw [h] at houtcome
    cases hdescribed with
    | rejected _ | unknown _ _ _ _ | fault _ _ _ _ => cases houtcome
    | @done rules _ answers hparse hresolved hanswered =>
      cases houtcome
      refine ⟨rules, answers, hparse, (forall₂_comp hresolved hanswered).imp ?_, rfl⟩
      rintro rule answer ⟨s, hs, hanswer⟩
      exact ⟨s.check, hs.routine, hs.verdict ▸ hanswer⟩
  · rintro ⟨rules, answers, hparse, hanswers, hfailures⟩
    have hknown : ∀ rule ∈ rules.flat, (r.get? rule.2.name).isSome := by
      intro rule hrule
      obtain ⟨_, check, hcheck, -⟩ := exists_of_mem_items hanswers hrule
      rw [hcheck]
      rfl
    obtain ⟨steps, hresolved⟩ := exists_resolves hknown
    have hanswered :
        List.Forall₂ (fun s answer => s.verdict record = .ok answer) steps answers := by
      refine (forall₂_comp hresolved.flip hanswers).imp ?_
      rintro s answer ⟨rule, hs, check, hcheck, hanswer⟩
      obtain rfl : s.check = check := Option.some.inj (hs.routine.symm.trans hcheck)
      rw [hs.verdict, hanswer]
    rw [evaluate_of_resolves hparse hresolved, Step.runAll_eq_ok_iff.2 ⟨answers, hanswered, rfl⟩,
      ← hfailures]
    rfl

/-- **No rule set**: the declarations are rejected with the same complaint. -/
theorem Registry.evaluate_rejected_iff {e : RulesetError} :
    r.evaluate record declarations = .error (.ruleset e) ↔ parseRuleset declarations = .error e := by
  constructor
  · intro h
    obtain ⟨calls, outcome, hdescribed⟩ := r.exists_evaluates record declarations
    obtain ⟨-, houtcome⟩ := hdescribed.eq
    rw [h] at houtcome
    cases hdescribed with
    | unknown _ _ _ _ | fault _ _ _ _ | done _ _ _ => cases houtcome
    | rejected hparse =>
      cases houtcome
      exact hparse
  · exact fun hparse => (Evaluates.rejected hparse).eq.2

/-- **Unknown rule**: some declared rule has no routine. -/
theorem Registry.evaluate_unknown_iff :
    (∃ e, r.evaluate record declarations = .error (.unknownRule e)) ↔ ∃ rules : Ruleset,
      parseRuleset declarations = .ok rules ∧ ∃ rule ∈ rules.flat, r.get? rule.2.name = none := by
  constructor
  · rintro ⟨e, h⟩
    obtain ⟨calls, outcome, hdescribed⟩ := r.exists_evaluates record declarations
    obtain ⟨-, houtcome⟩ := hdescribed.eq
    rw [h] at houtcome
    cases hdescribed with
    | rejected _ | fault _ _ _ _ | done _ _ _ => cases houtcome
    | @unknown rules before field i after hparse hflat _ hmissing =>
      exact ⟨rules, hparse, (field, i), by rw [hflat]; simp, hmissing⟩
  · rintro ⟨rules, hparse, rule, hrule, hmissing⟩
    cases hplan : r.plan rules with
    | ok steps =>
      obtain ⟨s, hs⟩ := exists_of_mem_items (plan_eq_ok_iff.1 hplan) hrule
      rw [hs.routine] at hmissing
      cases hmissing
    | error e =>
      obtain ⟨before, field, i, after, hflat, hknown, hnone, -⟩ := plan_eq_error_iff.1 hplan
      exact ⟨_, (Evaluates.unknown hparse hflat hknown hnone).eq.2⟩

/-- **Fault**: every declared rule is known, and the routine of one of them raises. -/
theorem Registry.evaluate_fault_iff :
    (∃ e, r.evaluate record declarations = .error (.routine e)) ↔ ∃ rules : Ruleset,
      parseRuleset declarations = .ok rules ∧
        (∀ rule ∈ rules.flat, (r.get? rule.2.name).isSome) ∧
          ∃ rule ∈ rules.flat, r.Faults record rule := by
  constructor
  · rintro ⟨e, h⟩
    obtain ⟨calls, outcome, hdescribed⟩ := r.exists_evaluates record declarations
    obtain ⟨-, houtcome⟩ := hdescribed.eq
    rw [h] at houtcome
    cases hdescribed with
    | rejected _ | unknown _ _ _ _ | done _ _ _ => cases houtcome
    | @fault rules before s after cause hparse hresolved hanswered hraised =>
      refine ⟨rules, hparse, fun rule hrule => ?_, ?_⟩
      · obtain ⟨t, ht⟩ := exists_of_mem_items hresolved hrule
        rw [ht.routine]
        rfl
      · obtain ⟨rule, hrule, hs⟩ := exists_of_mem_results hresolved (b := s) (by simp)
        exact ⟨rule, hrule, s.check, hs.routine, cause, hs.verdict ▸ hraised⟩
  · rintro ⟨rules, hparse, hknown, rule, hrule, check, hcheck, hraises⟩
    obtain ⟨steps, hresolved⟩ := exists_resolves hknown
    obtain ⟨s, hmem, hs⟩ := exists_of_mem_results hresolved.flip hrule
    obtain rfl : s.check = check := Option.some.inj (hs.routine.symm.trans hcheck)
    obtain ⟨e, he⟩ := Step.raises_runAll.2 ⟨s, hmem, hs.verdict ▸ hraises⟩
    rw [evaluate_of_resolves hparse hresolved, he]
    exact ⟨e, rfl⟩

end

end RecordRules
