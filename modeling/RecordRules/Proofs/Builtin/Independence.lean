import RecordRules.Host.Standard
import RecordRules.Proofs.Builtin.Failures

/-!
# What an evaluation depends on

A rule of the library reads its own field and, if it compares fields, one other
(`Builtin.fieldsRead`). Of these fields only the values count, and of a blank one not even that: how
it is blank makes no difference. `Registry.outline_evaluate_congr` says so of whole evaluations, with
the values left out of the failures (`Result.outline`): two records whose values at the fields read
are alike end in the same error or have the same failures.
-/

namespace RecordRules

/-- A failure without the value. -/
def Failure.outline (f : Failure) : String × String × Value := (f.field, f.rule, f.param)

/-- The failures of a result without the values. -/
def Result.outline (r : Result) : List (String × String × Value) := r.failures.map Failure.outline

namespace Builtin

/-- The fields that a declared rule reads: its own, and the other one that it compares it with. -/
def fieldsRead (rule : String × Invocation) : List String :=
  rule.1 :: (partner? rule.2.name rule.2.param).toList

variable {host : Host} {name field : String} {check : Check} {record record' : Record}
  {param : Option String}

/-- The check of a rule ends in the same way on records that are alike at the fields it reads. -/
theorem Kind.outline_check_congr (h : Kind host name check)
    (hfield : (record.value field).Alike (record'.value field))
    (hpartner : ∀ other ∈ partner? name param, (record.value other).Alike (record'.value other)) :
    (check field record param).map (Option.map Failure.outline) =
      (check field record' param).map (Option.map Failure.outline) := by
  rcases hfield with hsame | ⟨hblank, hblank'⟩
  · cases h with
    | required => simp only [Check.required, hsame]
    | requiredFile => simp only [Check.requiredFile, hsame]
    | @optional _ _ holds _ hcheck hasks =>
      rw [hcheck, Check.asking, Check.asking, hsame]
      cases hpresent : (record'.value field).isBlank with
      | true => rfl
      | false =>
        have hanswer : holds field record' param = holds field record param :=
          hasks.reads (hsame ▸ hpresent) hsame.symm hpartner
        rw [hanswer]
  · rw [h.check_blank hblank, h.check_blank hblank']
    cases wantsPresence name <;> rfl

end Builtin

/-! ## Runs -/

section
variable {host : Host} {record record' : Record} {declarations : Declarations}
  {rule : String × Invocation} {s : Step} {steps : List Step}

/-- The routine of a rule ends in the same way on records that are alike at the fields read. -/
theorem Registry.Resolves.outline_verdict_congr (h : (builtins host).Resolves rule s)
    (halike : ∀ field ∈ Builtin.fieldsRead rule, (record.value field).Alike (record'.value field)) :
    (s.verdict record).map (Option.map Failure.outline) =
      (s.verdict record').map (Option.map Failure.outline) := by
  rw [h.verdict, h.verdict]
  refine (Builtin.kind h.routine).outline_check_congr (halike rule.1 (by simp [Builtin.fieldsRead]))
    fun other hother => halike other ?_
  simp [Builtin.fieldsRead, Option.mem_def.1 hother]

/-- Runs whose steps end in the same way end in the same way. -/
theorem Step.outline_runAll_congr
    (h : ∀ s ∈ steps, (s.verdict record).map (Option.map Failure.outline) =
      (s.verdict record').map (Option.map Failure.outline)) :
    (runAll record steps).map (List.map Failure.outline) =
      (runAll record' steps).map (List.map Failure.outline) := by
  induction steps with
  | nil => rfl
  | cons s rest ih =>
    have hrest := map_eq_map_iff.1 (ih fun t ht => h t (by simp [ht]))
    rw [runAll_cons, runAll_cons, run, run]
    rcases map_eq_map_iff.1 (h s (by simp)) with ⟨cause, hs, hs'⟩ | ⟨answer, answer', hs, hs', heq⟩
    · rw [verdict] at hs hs'
      rw [hs, hs']
      rfl
    · rw [verdict] at hs hs'
      rw [hs, hs']
      rcases hrest with ⟨e, hfail, hfail'⟩ | ⟨failures, failures', hok, hok', heqs⟩
      · rw [hfail, hfail']
        rfl
      · have hanswer : answer.toList.map Failure.outline = answer'.toList.map Failure.outline := by
          rw [← Option.toList_map, ← Option.toList_map, heq]
        rw [hok, hok']
        simp [Except.mapError, Except.map, bind, Except.bind, pure, Except.pure, hanswer, heqs]

/-! ## Evaluations -/

/-- The fields that the rules of declarations read. -/
def Builtin.fieldsReadBy (declarations : Declarations) : List String :=
  match parseRuleset declarations with
  | .ok rules => rules.flat.flatMap fieldsRead
  | .error _ => []

/-- **Fields do not interfere.** Records whose values are alike at the fields read end in the same
error, or in failures that are the same but for the values. -/
theorem Registry.outline_evaluate_congr
    (h : ∀ field ∈ Builtin.fieldsReadBy declarations,
      (record.value field).Alike (record'.value field)) :
    ((builtins host).evaluate record declarations).map Result.outline =
      ((builtins host).evaluate record' declarations).map Result.outline := by
  rw [Builtin.fieldsReadBy] at h
  cases hparse : parseRuleset declarations with
  | error e => simp [evaluate, trace, hparse]
  | ok rules =>
    cases hplan : (builtins host).plan rules with
    | error e =>
      simp [evaluate, trace, traceParsed, hparse, hplan]
    | ok steps =>
      have hresolved := plan_eq_ok_iff.1 hplan
      have hruns : (Step.runAll record steps).map (List.map Failure.outline) =
          (Step.runAll record' steps).map (List.map Failure.outline) := by
        refine Step.outline_runAll_congr fun s hs => ?_
        obtain ⟨rule, hrule, hstep⟩ := exists_of_mem_results hresolved hs
        refine hstep.outline_verdict_congr fun field hfield => h field ?_
        rw [hparse]
        exact List.mem_flatMap.2 ⟨rule, hrule, hfield⟩
      rw [evaluate_of_resolves hparse hresolved, evaluate_of_resolves hparse hresolved]
      rcases map_eq_map_iff.1 hruns with ⟨e, he, he'⟩ | ⟨failures, failures', hok, hok', heq⟩
      · rw [he, he']
      · rw [hok, hok']
        exact congrArg Except.ok heq

/-- A field that no rule reads does not count, nor does it whether the field compared with is an
empty list or missing. -/
theorem Registry.outline_evaluate_congr_blank :
    let host : Host := .standard ⟨2026, 6, 15, rfl⟩
    let record : Record := [("name", .text "x"), ("photo", .null), ("shade", .list [])]
    let record' : Record := [("photo", .dict []), ("size", .int 7), ("name", .text "x")]
    let declarations : Declarations :=
      [("name", .text "equalsfield, shade |alpha"), ("photo", .text "required_file,now|valid_email")]
    (∀ field ∈ Builtin.fieldsReadBy declarations,
        (record.value field).Alike (record'.value field)) ∧
      ((builtins host).evaluate record declarations).map Result.outline =
        ((builtins host).evaluate record' declarations).map Result.outline ∧
      ((builtins host).evaluate record' declarations).map Result.outline =
        .ok [("name", "equalsfield", .text "shade"), ("photo", "required_file", .text "now")] := by
  intro host record record' declarations
  have hfields : Builtin.fieldsReadBy declarations = ["name", "shade", "name", "photo", "photo"] :=
    rfl
  have halike : ∀ field ∈ Builtin.fieldsReadBy declarations,
      (record.value field).Alike (record'.value field) := by
    simp only [hfields, List.forall_mem_cons]
    exact ⟨.inl rfl, .inr ⟨rfl, rfl⟩, .inl rfl, .inr ⟨rfl, rfl⟩, .inr ⟨rfl, rfl⟩, by simp⟩
  exact ⟨halike, outline_evaluate_congr halike, rfl⟩

end

end RecordRules
