import RecordRules.Proofs.Declaration.RoundTrip
import RecordRules.Proofs.Outcome
import RecordRules.Proofs.Registry.Names
import RecordRules.Proofs.Text.Split

/-!
# Declaring registered rules

Names that a registry accepts, with pipes between them, declare the rules of these names, unless one
of them that is not the last ends in a backslash: the pipe behind it is then read as part of a name
(`Registry.declares_accepted`, `Registry.accepted_not_declared`).
-/

namespace RecordRules

namespace Declaration

variable {names : List String}

/-- Names with pipes between them, a declaration of rules without parameters. -/
def ofNames (names : List String) : String := "|".intercalate names

/-- Names without pipes are declared as they are written for their rules. -/
theorem ofNames_eq_encode (h : ∀ name ∈ names, '|' ∉ name.toList) :
    ofNames names = encode (names.map fun name => ⟨name, none⟩) := by
  have htexts : (names.map fun name => escape (Invocation.declaration ⟨name, none⟩).toList) =
      names.map String.toList :=
    List.map_congr_left fun name hname => escape_of_not_mem (h name hname)
  rw [← String.toList_inj, encode, String.toList_ofList, List.map_map, Text.joinWith_eq_intercalate,
    ofNames, String.toList_intercalate]
  exact congrArg _ htexts.symm

/-- **Names are declared** by themselves exactly when none but the last ends in a backslash. -/
theorem parseRules_ofNames_iff (hne : names ≠ [])
    (h : ∀ name ∈ names, name ≠ "" ∧ '|' ∉ name.toList ∧ ',' ∉ name.toList) :
    parseRules (ofNames names) = .ok (names.map fun name => ⟨name, none⟩) ↔
      ∀ name ∈ names.dropLast, name.toList.getLast? ≠ some '\\' := by
  have htexts : ∀ t ∈ names.map String.toList, t ≠ [] := by
    simpa using fun name hname => (h name hname).1
  have hencode := ofNames_eq_encode fun name hname => (h name hname).2.1
  have hnonempty : ofNames names ≠ "" := by
    cases names with
    | nil => exact absurd rfl hne
    | cons name rest =>
      rw [hencode]
      exact encode_cons_ne_empty (i := ⟨name, none⟩) _ (h name (by simp)).1
  have hlist : (ofNames names).toList =
      Text.joinWith '|' ((names.map String.toList).map escape) := by
    rw [hencode, toList_encode]
    simp only [List.map_map]
    rfl
  have hlast : (∀ name ∈ names.dropLast, name.toList.getLast? ≠ some '\\') ↔
      ∀ t ∈ (names.map String.toList).dropLast, t.getLast? ≠ some '\\' := by
    rw [← List.map_dropLast, List.forall_mem_map]
  rw [parseRules_eq_ok_iff hnonempty, hlist, hlast]
  constructor
  · intro hparsed
    refine getLast?_ne_of_length_segments (by simpa using hne) htexts ?_
    rw [hparsed.length_eq, List.length_map, List.length_map]
  · intro hends
    rw [segments_joinWith_escape (by simpa using hne) htexts hends, List.map_map,
      List.forall₂_map_left_iff, List.forall₂_map_right_iff, List.forall₂_same]
    intro name hname
    rw [Function.comp_apply, unescape_escape]
    exact invocation?_eq_some_iff.2 ⟨(h name hname).1, (h name hname).2.2, rfl⟩

end Declaration

namespace Registry

variable {names : List String}

/-- A name that a registry accepts is usable. -/
theorem usable_of_accepted {name : String}
    (h : ∃ (r r' : Registry Check) (check : Check), r.register name (.routine check) = .ok r') :
    name ≠ "" ∧ '|' ∉ name.toList ∧ ',' ∉ name.toList := by
  obtain ⟨r, r', check, hr⟩ := h
  exact isUsableName_iff.1 (register_eq_ok_iff.1 hr).1

/-- **Accepted names can be declared together** as long as none but the last ends in a backslash,
and only then. A registry that holds them resolves the rules so declared and runs them in order. -/
theorem declares_accepted (hne : names ≠ [])
    (haccepted : ∀ name ∈ names,
      ∃ (r r' : Registry Check) (check : Check), r.register name (.routine check) = .ok r') :
    (parseRules (Declaration.ofNames names) = .ok (names.map fun name => ⟨name, none⟩) ↔
      ∀ name ∈ names.dropLast, name.toList.getLast? ≠ some '\\') ∧
    ((∀ name ∈ names.dropLast, name.toList.getLast? ≠ some '\\') →
      ∀ (r : Registry Check) (field : String) (record : Record),
        (∀ name ∈ names, (r.get? name).isSome) →
        let declarations : Declarations := [(field, .text (Declaration.ofNames names))]
        ∃ steps, List.Forall₂ r.Resolves (names.map fun name => (field, ⟨name, none⟩)) steps ∧
          r.evaluate record declarations =
            ((Step.runAll record steps).mapError .routine).map Result.mk ∧
          ((∀ s ∈ steps, ∃ answer, s.verdict record = .ok answer) →
            r.calledBy record declarations = steps)) := by
  have hparses := Declaration.parseRules_ofNames_iff hne fun name hname =>
    usable_of_accepted (haccepted name hname)
  refine ⟨hparses, ?_⟩
  intro hends r field record hheld declarations
  have hparse : parseRuleset declarations = .ok [(field, names.map fun name => ⟨name, none⟩)] := by
    rw [parseRuleset, mapM_eq_ok_iff]
    refine .cons ?_ .nil
    simp only [parseDeclaration, hparses.2 hends]
    rfl
  have hflat : Ruleset.flat [(field, names.map fun name => ⟨name, none⟩)] =
      names.map fun name => (field, ⟨name, none⟩) := by
    simp [Ruleset.flat]
  have hnames : ∀ rule ∈ Ruleset.flat [(field, names.map fun name => ⟨name, none⟩)],
      (r.get? rule.2.name).isSome := by
    simpa [hflat] using hheld
  obtain ⟨steps, hsteps⟩ := r.exists_resolves hnames
  refine ⟨steps, hflat ▸ hsteps, evaluate_of_resolves hparse hsteps, fun hanswers => ?_⟩
  rw [calledBy_of_plan hparse (plan_eq_ok_iff.2 hsteps), ← List.append_nil steps,
    Step.called_append hanswers]
  rfl

/-- The last name may end in a backslash, and a name may be declared twice. -/
theorem declares_accepted_twice :
    let check : Check := fun _ _ _ => .ok none
    let r : Registry Check := ⟨[("c\\", check), ("slug", check)]⟩
    let declarations : Declarations := [("f", .text "slug|slug|c\\")]
    (∀ name ∈ ["slug", "slug", "c\\"], ∃ (r r' : Registry Check) (check : Check),
      r.register name (.routine check) = .ok r') ∧
    parseRules "slug|slug|c\\" = .ok [⟨"slug", none⟩, ⟨"slug", none⟩, ⟨"c\\", none⟩] ∧
    r.calledBy [] declarations =
      [⟨"f", "slug", none, check⟩, ⟨"f", "slug", none, check⟩, ⟨"f", "c\\", none, check⟩] := by
  intro check r declarations
  have haccepted : ∀ name ∈ ["slug", "slug", "c\\"], ∃ (r r' : Registry Check) (check : Check),
      r.register name (.routine check) = .ok r' := by
    intro name hname
    have husable : ∀ name ∈ ["slug", "slug", "c\\"], isUsableName name = true := by decide
    exact ⟨r, _, check, register_eq_ok_iff.2 ⟨husable name hname, check, rfl, rfl⟩⟩
  obtain ⟨hparses, hruns⟩ := declares_accepted (by decide) haccepted
  have hends : ∀ name ∈ ["slug", "slug", "c\\"].dropLast, name.toList.getLast? ≠ some '\\' := by
    decide
  obtain ⟨steps, hsteps, -, hcalled⟩ := hruns hends r "f" [] (by decide)
  have hplan : r.plan [("f", ["slug", "slug", "c\\"].map (⟨·, none⟩))] = .ok steps :=
    plan_eq_ok_iff.2 hsteps
  obtain rfl : steps =
      [⟨"f", "slug", none, check⟩, ⟨"f", "slug", none, check⟩, ⟨"f", "c\\", none, check⟩] :=
    Except.ok.inj (hplan.symm.trans rfl)
  exact ⟨haccepted, hparses.2 hends, hcalled (by simp [Step.verdict, check])⟩

/-- A name that ends in a backslash is accepted like another, and together they declare a third. -/
theorem accepted_not_declared :
    let check : Check := fun _ _ _ => .ok none
    ∃ r : Registry Check, ofOffers [("a\\", .routine check), ("b", .routine check)] = .ok r ∧
      parseRules (Declaration.ofNames ["a\\", "b"]) = .ok [⟨"a|b", none⟩] ∧
      r.evaluate [] [("f", .text (Declaration.ofNames ["a\\", "b"]))] =
        .error (.unknownRule ⟨"a|b", some "f"⟩) :=
  ⟨_, rfl, rfl, rfl⟩

end Registry

end RecordRules
