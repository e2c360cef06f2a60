import Mathlib.Data.List.ReduceOption
import RecordRules.Engine
import RecordRules.Proofs.Traversal

/-!
# What an evaluation does

`Registry.Evaluates` describes an evaluation by the routines that are called and the outcome, in four
cases: the declarations make no rule set, a rule has no routine, a routine raises, or all routines
answer. `Registry.evaluate_described` says that every evaluation falls under exactly one description,
whatever the routines do. Which routines are called is a fact about the outcome too: registries that
know the same names and answer alike where routines are called end alike
(`Registry.Evaluates.of_agree`).
-/

namespace RecordRules

/-- The rules of a rule set one by one with their fields, in the order of declaration. -/
def Ruleset.flat (rules : Ruleset) : List (String × Invocation) :=
  rules.flatMap fun (field, invocations) => invocations.map fun i => (field, i)

/-- What the routine of a step answers. -/
def Step.verdict (s : Step) (record : Record) : Verdict := s.check s.field record s.param

/-- The routine that a registry has for a rule is to be called, on the field of the rule and with
its parameter. -/
structure Registry.Resolves (r : Registry Check) (rule : String × Invocation) (s : Step) : Prop where
  field : s.field = rule.1
  name : s.rule = rule.2.name
  param : s.param = rule.2.param
  routine : r.get? rule.2.name = some s.check

section
variable {r : Registry Check} {record : Record} {declarations : Declarations}
  {rule : String × Invocation} {s : Step} {steps before after : List Step}

/-- An evaluation described by the routines that are called, in order, and the outcome. -/
inductive Registry.Evaluates (r : Registry Check) (record : Record) (declarations : Declarations) :
    List Step → Except EvaluationError Result → Prop
  | rejected {e} : parseRuleset declarations = .error e →
      Evaluates r record declarations [] (.error (.ruleset e))
  | unknown {rules before field i after} : parseRuleset declarations = .ok rules →
      rules.flat = before ++ (field, i) :: after →
      (∀ rule ∈ before, (r.get? rule.2.name).isSome) → r.get? i.name = none →
      Evaluates r record declarations [] (.error (.unknownRule ⟨i.name, some field⟩))
  | fault {rules before s after cause} : parseRuleset declarations = .ok rules →
      List.Forall₂ r.Resolves rules.flat (before ++ s :: after) →
      (∀ t ∈ before, ∃ answer, t.verdict record = .ok answer) → s.verdict record = .error cause →
      Evaluates r record declarations (before ++ [s]) (.error (.routine ⟨s.field, s.rule, cause⟩))
  | done {rules steps answers} : parseRuleset declarations = .ok rules →
      List.Forall₂ r.Resolves rules.flat steps →
      List.Forall₂ (fun s answer => s.verdict record = .ok answer) steps answers →
      Evaluates r record declarations steps (.ok ⟨answers.reduceOption⟩)

/-! ## Looking rules up -/

/-- The step for a rule, or the complaint that it has no routine. -/
def Registry.step (r : Registry Check) (rule : String × Invocation) : Except UnknownRule Step := do
  return ⟨rule.1, rule.2.name, rule.2.param, ← r.resolve rule.2.name (some rule.1)⟩

/-- A rule makes a step when its name is resolved. -/
theorem Registry.step_eq_ok_iff : r.step rule = .ok s ↔ r.Resolves rule s := by
  obtain ⟨field, name, param, check⟩ := s
  rw [Registry.step, Registry.resolve]
  constructor
  · intro h
    cases hget : r.get? rule.2.name with
    | none => rw [hget] at h; cases h
    | some routine =>
      rw [hget] at h
      cases h
      exact ⟨rfl, rfl, rfl, hget⟩
  · rintro ⟨rfl, rfl, rfl, hget⟩
    rw [hget]
    rfl

/-- It makes none when there is no rule under the name, and the error names it and the field. -/
theorem Registry.step_eq_error_iff {e : UnknownRule} :
    r.step rule = .error e ↔ r.get? rule.2.name = none ∧ e = ⟨rule.2.name, some rule.1⟩ := by
  rw [Registry.step, Registry.resolve]
  cases r.get? rule.2.name <;> simp [bind, Except.bind, pure, Except.pure, eq_comm]

/-- Looking rules up field by field is looking up one rule after the other. -/
theorem Registry.plan_eq_mapM (r : Registry Check) (rules : Ruleset) :
    r.plan rules = rules.flat.mapM r.step := by
  induction rules with
  | nil => rfl
  | cons entry rest ih =>
    obtain ⟨field, invocations⟩ := entry
    have hfield : r.fieldPlan field invocations =
        (invocations.map fun i => (field, i)).mapM r.step := by
      rw [List.mapM_map]
      rfl
    have hrest : Ruleset.flat ((field, invocations) :: rest) =
        (invocations.map fun i => (field, i)) ++ Ruleset.flat rest := rfl
    rw [hrest, List.mapM_append, ← ih, ← hfield]
    simp [Registry.plan]

/-- All rules have routines when each of them resolves to a step. -/
theorem Registry.plan_eq_ok_iff {rules : Ruleset} :
    r.plan rules = .ok steps ↔ List.Forall₂ r.Resolves rules.flat steps := by
  simp only [plan_eq_mapM, mapM_eq_ok_iff, step_eq_ok_iff]

/-- The complaint is about the first rule without a routine. -/
theorem Registry.plan_eq_error_iff {rules : Ruleset} {e : UnknownRule} :
    r.plan rules = .error e ↔ ∃ before field i after, rules.flat = before ++ (field, i) :: after ∧
      (∀ rule ∈ before, (r.get? rule.2.name).isSome) ∧ r.get? i.name = none ∧
      e = ⟨i.name, some field⟩ := by
  have hok : ∀ rule, (∃ s, r.step rule = .ok s) ↔ (r.get? rule.2.name).isSome := by
    intro rule
    simp only [step_eq_ok_iff, Option.isSome_iff_exists]
    constructor
    · rintro ⟨s, h⟩
      exact ⟨s.check, h.routine⟩
    · rintro ⟨check, h⟩
      exact ⟨⟨rule.1, rule.2.name, rule.2.param, check⟩, rfl, rfl, rfl, h⟩
  simp only [plan_eq_mapM, mapM_eq_error_iff, step_eq_error_iff, hok, Prod.exists]

/-! ## Running steps -/

/-- A step that is run answers what its routine answers. -/
theorem Step.run_eq_ok_iff {answer : Option Failure} :
    s.run record = .ok answer ↔ s.verdict record = .ok answer := by
  rw [Step.run, Step.verdict]
  cases s.check s.field record s.param <;> simp [Except.mapError]

/-- A step that cannot be run is reported with the cause of its routine. -/
theorem Step.run_eq_error_iff {e : RoutineFault} :
    s.run record = .error e ↔ ∃ cause, s.verdict record = .error cause ∧
      e = ⟨s.field, s.rule, cause⟩ := by
  rw [Step.run, Step.verdict]
  cases s.check s.field record s.param <;> simp [Except.mapError, eq_comm]

/-- A run goes on behind a routine that answers, and ends with one that raises. -/
theorem Step.runAll_cons : runAll record (s :: after) = do
    let failure ← s.run record
    return failure.toList ++ (← runAll record after) := by
  rw [runAll, trace]
  cases s.run record with
  | error e => rfl
  | ok failure =>
    change (trace record after).outcome.map (failure.toList ++ ·) = _
    rw [← runAll]
    cases runAll record after <;> rfl

/-- Running steps keeps the failures among the answers, in order. -/
theorem Step.runAll_eq_mapM (record : Record) (steps : List Step) :
    Step.runAll record steps = (steps.mapM (Step.run · record)).map List.reduceOption := by
  induction steps with
  | nil => rfl
  | cons s rest ih =>
    rw [runAll_cons, ih, List.mapM_cons]
    cases s.run record with
    | error e => rfl
    | ok answer =>
      cases rest.mapM (Step.run · record) with
      | error e => rfl
      | ok answers => cases answer <;> rfl

/-- A run succeeds when every routine answers. -/
theorem Step.runAll_eq_ok_iff {failures : List Failure} :
    Step.runAll record steps = .ok failures ↔ ∃ answers,
      List.Forall₂ (fun s answer => s.verdict record = .ok answer) steps answers ∧
        failures = answers.reduceOption := by
  simp only [← run_eq_ok_iff, ← mapM_eq_ok_iff, runAll_eq_mapM]
  cases steps.mapM (Step.run · record) <;> simp [Except.map, eq_comm]

/-- A run fails with the first routine that raises. -/
theorem Step.runAll_eq_error_iff {e : RoutineFault} :
    Step.runAll record steps = .error e ↔ ∃ before s after, steps = before ++ s :: after ∧
      (∀ t ∈ before, ∃ answer, t.verdict record = .ok answer) ∧
        ∃ cause, s.verdict record = .error cause ∧ e = ⟨s.field, s.rule, cause⟩ := by
  have hmap : Step.runAll record steps = .error e ↔ (steps.mapM (Step.run · record)) = .error e := by
    rw [runAll_eq_mapM]
    cases steps.mapM (Step.run · record) <;> simp [Except.map]
  simp only [hmap, mapM_eq_error_iff, run_eq_ok_iff, run_eq_error_iff]

/-- Steps whose routines answer are called, and the calls go on behind them. -/
theorem Step.called_append (h : ∀ t ∈ before, ∃ answer, t.verdict record = .ok answer) :
    Step.called record (before ++ after) = before ++ Step.called record after := by
  induction before with
  | nil => rfl
  | cons t before ih =>
    obtain ⟨answer, ht⟩ := h t (by simp)
    rw [List.cons_append, called, trace, run_eq_ok_iff.2 ht]
    change t :: called record (before ++ after) = _
    rw [ih fun u hu => h u (by simp [hu]), List.cons_append]

/-- The routine that raises is the last one called. -/
theorem Step.called_cons_of_error {cause : Cause} (h : s.verdict record = .error cause) :
    Step.called record (s :: after) = [s] := by
  rw [called, trace, run_eq_error_iff.2 ⟨cause, h, rfl⟩]

/-! ## Evaluations -/

variable {calls : List Step} {outcome : Except EvaluationError Result}

/-- A rule set that is read is evaluated. -/
theorem Registry.evaluate_of_parsed {rules : Ruleset} (h : parseRuleset declarations = .ok rules) :
    r.evaluate record declarations = r.evaluateParsed record rules := by
  rw [evaluate, trace, h]
  rfl

/-- Rules that all have routines are run. -/
theorem Registry.evaluateParsed_of_plan {rules : Ruleset} (h : r.plan rules = .ok steps) :
    r.evaluateParsed record rules =
      ((Step.runAll record steps).mapError .routine).map Result.mk := by
  rw [evaluateParsed, traceParsed, h]
  rfl

/-- The calls of an evaluation are those of its plan. -/
theorem Registry.calledBy_of_plan {rules : Ruleset} (h : parseRuleset declarations = .ok rules)
    (hplan : r.plan rules = .ok steps) :
    r.calledBy record declarations = Step.called record steps := by
  simp only [calledBy, trace, h, traceParsed, hplan]
  rfl

/-- What a description says is what happens. -/
theorem Registry.Evaluates.eq (h : r.Evaluates record declarations calls outcome) :
    r.calledBy record declarations = calls ∧ r.evaluate record declarations = outcome := by
  cases h with
  | rejected hparse => simp [calledBy, evaluate, trace, hparse]
  | unknown hparse hflat hknown hmissing =>
    have hplan := plan_eq_error_iff.2 ⟨_, _, _, _, hflat, hknown, hmissing, rfl⟩
    simp [calledBy, evaluate, trace, traceParsed, hparse, hplan]
  | @fault rules before s after cause hparse hresolved hanswered hraised =>
    have hplan := plan_eq_ok_iff.2 hresolved
    have hrun := Step.runAll_eq_error_iff.2 ⟨before, s, after, rfl, hanswered, cause, hraised, rfl⟩
    rw [calledBy_of_plan hparse hplan, Step.called_append hanswered,
      Step.called_cons_of_error hraised, evaluate_of_parsed hparse, evaluateParsed_of_plan hplan, hrun]
    exact ⟨rfl, rfl⟩
  | done hparse hresolved hanswered =>
    have hplan := plan_eq_ok_iff.2 hresolved
    have hrun := Step.runAll_eq_ok_iff.2 ⟨_, hanswered, rfl⟩
    have hcalled : Step.called record (calls ++ []) = calls ++ [] :=
      Step.called_append fun t ht => exists_of_mem_items hanswered ht
    rw [calledBy_of_plan hparse hplan, evaluate_of_parsed hparse, evaluateParsed_of_plan hplan, hrun]
    rw [List.append_nil] at hcalled
    exact ⟨hcalled, rfl⟩

/-- Every evaluation has a description. -/
theorem Registry.exists_evaluates (r : Registry Check) (record : Record)
    (declarations : Declarations) : ∃ calls outcome, r.Evaluates record declarations calls outcome := by
  cases hparse : parseRuleset declarations with
  | error e => exact ⟨_, _, .rejected hparse⟩
  | ok rules =>
    cases hplan : r.plan rules with
    | error e =>
      obtain ⟨before, field, i, after, hflat, hknown, hmissing, -⟩ := plan_eq_error_iff.1 hplan
      exact ⟨_, _, .unknown hparse hflat hknown hmissing⟩
    | ok steps =>
      have hresolved := plan_eq_ok_iff.1 hplan
      cases hrun : Step.runAll record steps with
      | error e =>
        obtain ⟨before, s, after, rfl, hanswered, cause, hraised, -⟩ :=
          Step.runAll_eq_error_iff.1 hrun
        exact ⟨_, _, .fault hparse hresolved hanswered hraised⟩
      | ok failures =>
        obtain ⟨answers, hanswered, -⟩ := Step.runAll_eq_ok_iff.1 hrun
        exact ⟨_, _, .done hparse hresolved hanswered⟩

/-! ## Routines that are not called -/

/-- Two registries know the same names, and their routines answer alike to the calls. -/
structure Registry.Agree (r r' : Registry Check) (record : Record) (calls : List Step) : Prop where
  names : ∀ name, (r'.get? name).isSome = (r.get? name).isSome
  answers : ∀ s ∈ calls, ∀ check, r'.get? s.rule = some check →
    check s.field record s.param = s.verdict record

/-- The step that calls a registry's own routine. -/
def Step.over (r : Registry Check) (s : Step) : Step :=
  { s with check := (r.get? s.rule).getD s.check }

variable {r' : Registry Check}

/-- The routine of another registry that knows the name takes the place of a routine. -/
theorem Registry.Resolves.over (hnames : ∀ name, (r'.get? name).isSome = (r.get? name).isSome)
    (h : r.Resolves rule s) : r'.Resolves rule (s.over r') := by
  have hsome : (r'.get? rule.2.name).isSome := by
    rw [hnames, h.routine]
    rfl
  obtain ⟨check, hcheck⟩ := Option.isSome_iff_exists.1 hsome
  refine ⟨h.field, h.name, h.param, ?_⟩
  rw [Step.over, h.name, hcheck]
  rfl

/-- Registries that agree on some calls answer them alike. -/
theorem Registry.Agree.verdict_over (h : r.Agree r' record calls) (hs : s ∈ calls) :
    (s.over r').verdict record = s.verdict record := by
  cases hget : r'.get? s.rule with
  | none => simp [Step.over, Step.verdict, hget]
  | some check => simpa [Step.over, Step.verdict, hget] using h.answers s hs check hget

/-- **The outcome depends on the calls only**: a registry that knows the same names and answers
alike to the calls ends alike, after calls on the same fields with the same parameters. -/
theorem Registry.Evaluates.of_agree (h : r.Evaluates record declarations calls outcome)
    (hagree : r.Agree r' record calls) :
    r'.Evaluates record declarations (calls.map (Step.over r')) outcome := by
  cases h with
  | rejected hparse => exact .rejected hparse
  | unknown hparse hflat hknown hmissing =>
    refine .unknown hparse hflat (fun rule hrule => ?_) ?_
    · rw [hagree.names]
      exact hknown rule hrule
    · rw [← Option.not_isSome_iff_eq_none, hagree.names, hmissing]
      simp
  | @fault rules before s after cause hparse hresolved hanswered hraised =>
    have hresolved' : List.Forall₂ r'.Resolves rules.flat
        (before.map (Step.over r') ++ s.over r' :: after.map (Step.over r')) := by
      rw [← List.map_cons, ← List.map_append, List.forall₂_map_right_iff]
      exact hresolved.imp fun _ _ => Resolves.over hagree.names
    rw [List.map_append]
    refine .fault hparse hresolved' (fun _ hmem => ?_) ?_
    · obtain ⟨t, ht, rfl⟩ := List.mem_map.1 hmem
      rw [hagree.verdict_over (by simp [ht])]
      exact hanswered t ht
    · rw [hagree.verdict_over (by simp)]
      exact hraised
  | done hparse hresolved hanswered =>
    refine .done hparse ?_ ?_
    · rw [List.forall₂_map_right_iff]
      exact hresolved.imp fun _ _ => Resolves.over hagree.names
    · rw [List.forall₂_map_left_iff]
      refine ((List.forall₂_and_left _ _).2 ⟨fun t ht => ht, hanswered⟩).imp fun t answer ht => ?_
      rw [hagree.verdict_over ht.1]
      exact ht.2

/-- **What an evaluation does**, whatever the routines do: of all descriptions exactly the one of
the routines called and the outcome is true, and registries that agree where routines are called
end alike, so that a routine that is not called has no say. -/
theorem Registry.evaluate_described (r : Registry Check) (record : Record)
    (declarations : Declarations) :
    (∀ calls outcome, r.Evaluates record declarations calls outcome ↔
      r.calledBy record declarations = calls ∧ r.evaluate record declarations = outcome) ∧
    ∀ r' : Registry Check, r.Agree r' record (r.calledBy record declarations) →
      r'.evaluate record declarations = r.evaluate record declarations := by
  have hdescribed : r.Evaluates record declarations (r.calledBy record declarations)
      (r.evaluate record declarations) := by
    obtain ⟨calls, outcome, h⟩ := r.exists_evaluates record declarations
    obtain ⟨rfl, rfl⟩ := h.eq
    exact h
  refine ⟨fun calls outcome => ⟨Evaluates.eq, ?_⟩, fun r' hagree => (hdescribed.of_agree hagree).eq.2⟩
  rintro ⟨rfl, rfl⟩
  exact hdescribed

/-- Behind a routine that raises, another that would raise too makes no difference. -/
theorem Registry.evaluate_described_behind_fault :
    let boom : Check := fun _ _ _ => .error .signalingNumber
    let r : Registry Check := ⟨[("boom", boom), ("late", fun _ _ _ => .ok none)]⟩
    let r' : Registry Check := ⟨[("boom", boom), ("late", fun _ _ _ => .error (.tooLong .tooLong))]⟩
    let declarations : Declarations := [("a", .text "boom|late,1"), ("b", .text "late")]
    r.Agree r' [] (r.calledBy [] declarations) ∧
      r'.evaluate [] declarations = r.evaluate [] declarations := by
  intro boom r r' declarations
  have hcalled : r.calledBy [] declarations = [⟨"a", "boom", none, boom⟩] := rfl
  have hagree : r.Agree r' [] (r.calledBy [] declarations) := by
    rw [hcalled]
    refine ⟨fun name => ?_, fun s hs check hcheck => ?_⟩
    · simp only [get?, r, r', List.lookup_cons, List.lookup_nil]
      cases name == "boom" <;> cases name == "late" <;> rfl
    · cases List.mem_singleton.1 hs
      cases hcheck
      rfl
  exact ⟨hagree, (r.evaluate_described [] declarations).2 r' hagree⟩

end

end RecordRules
