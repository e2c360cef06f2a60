import RecordRules.Host.Standard
import RecordRules.Proofs.Assoc
import RecordRules.Proofs.Traversal
import RecordRules.Registry

/-!
# The names in a registry

A registry that is built by registrations holds each name once, and only names that a declaration
can hold (`Registry.WellFormed`). Such a registry lists its names in increasing order, as many as it
has rules, and resolves exactly those (`Registry.WellFormed.orderly`); a copy of it is the same again
(`Registry.WellFormed.copy`).
-/

namespace RecordRules

variable {α : Type} {r r' : Registry α} {name : String} {offer : Offer α}
  {offers : List (String × Offer α)}

/-- The routine that is offered last under a name. -/
def Offer.last? (offers : List (String × Offer α)) (name : String) : Option α :=
  match offers.reverse.lookup name with
  | some (.routine a) => some a
  | _ => none

namespace Registry

/-- A name is usable when it is not empty and holds neither a pipe nor a comma. -/
theorem isUsableName_iff :
    isUsableName name = true ↔ name ≠ "" ∧ '|' ∉ name.toList ∧ ',' ∉ name.toList := by
  simp [isUsableName, and_assoc]

/-- Every name stands once and is usable. -/
structure WellFormed (r : Registry α) : Prop where
  nodup : (r.entries.map (·.1)).Nodup
  usable : ∀ name ∈ r.entries.map (·.1), isUsableName name = true

/-! ## Registering -/

/-- A registration succeeds when a routine is offered under a usable name. -/
theorem register_eq_ok_iff : r.register name offer = .ok r' ↔
    isUsableName name = true ∧ ∃ a, offer = .routine a ∧ r' = ⟨Assoc.put name a r.entries⟩ := by
  rw [Registry.register.eq_def]
  by_cases h : isUsableName name = true
  · cases offer <;> simp [h, eq_comm]
  · simp [h]

/-- A registration is refused when the name is not usable or what is offered cannot be called. -/
theorem register_refused_iff : (∃ e, r.register name offer = .error e) ↔
    isUsableName name = false ∨ ∃ kind, offer = .notCallable kind := by
  rw [Registry.register.eq_def]
  by_cases h : isUsableName name = true
  · cases offer <;> simp [h]
  · simp [h]

/-- A registry without rules. -/
theorem empty_wellFormed : (empty : Registry α).WellFormed := ⟨List.nodup_nil, by simp [empty]⟩

/-- Registering a rule keeps the names distinct and sound. -/
theorem WellFormed.register (h : r.WellFormed) (hr : r.register name offer = .ok r') :
    r'.WellFormed := by
  obtain ⟨hname, a, rfl, rfl⟩ := register_eq_ok_iff.1 hr
  refine ⟨Assoc.nodup_keys_put h.nodup name a, fun other hother => ?_⟩
  rw [Assoc.keys_put] at hother
  split at hother
  · exact h.usable other hother
  · rcases List.mem_append.1 hother with hother | hother
    · exact h.usable other hother
    · rw [List.mem_singleton.1 hother]
      exact hname

/-- What is found after a registration. -/
theorem get?_put (name other : String) (a : α) :
    get? ⟨Assoc.put name a r.entries⟩ other = if other = name then some a else r.get? other :=
  Assoc.lookup_put name other a r.entries

/-! ## Registering in turn -/

/-- The last offer is registered last. -/
theorem ofOffers_concat (offers : List (String × Offer α)) (name : String) (offer : Offer α) :
    ofOffers (offers ++ [(name, offer)]) = ofOffers offers >>= fun r => r.register name offer := by
  simp [ofOffers, List.foldlM_append]

/-- A registry can be built when every offer is a routine under a usable name. -/
theorem exists_ofOffers_iff : (∃ r, ofOffers offers = .ok r) ↔
    ∀ o ∈ offers, isUsableName o.1 = true ∧ ∃ a, o.2 = .routine a := by
  induction offers using List.reverseRecOn with
  | nil => simp [ofOffers, pure, Except.pure]
  | append_singleton offers o ih =>
    obtain ⟨name, offer⟩ := o
    have hlast : (∃ r, ofOffers (offers ++ [(name, offer)]) = .ok r) ↔
        (∃ r, ofOffers offers = .ok r) ∧ isUsableName name = true ∧ ∃ a, offer = .routine a := by
      simp only [ofOffers_concat, bind_eq_ok_iff, register_eq_ok_iff]
      constructor
      · rintro ⟨r', r, hr, hname, a, hoffer, -⟩
        exact ⟨⟨r, hr⟩, hname, a, hoffer⟩
      · rintro ⟨⟨r, hr⟩, hname, a, hoffer⟩
        exact ⟨_, r, hr, hname, a, hoffer, rfl⟩
    rw [hlast, ih, List.forall_mem_append, List.forall_mem_singleton]

/-- A registry that is made of offers is well-formed. -/
theorem wellFormed_ofOffers (h : ofOffers offers = .ok r) : r.WellFormed := by
  induction offers using List.reverseRecOn generalizing r with
  | nil =>
    cases h
    exact empty_wellFormed
  | append_singleton offers o ih =>
    rw [ofOffers_concat] at h
    obtain ⟨r', hr', h⟩ := bind_eq_ok_iff.1 h
    exact (ih hr').register h

/-- **A registry that is built from offers** has under each name the routine offered last. -/
theorem get?_ofOffers (h : ofOffers offers = .ok r) (name : String) :
    r.get? name = Offer.last? offers name := by
  induction offers using List.reverseRecOn generalizing r with
  | nil =>
    cases h
    rfl
  | append_singleton offers o ih =>
    obtain ⟨other, offer⟩ := o
    rw [ofOffers_concat] at h
    obtain ⟨r', hr', h⟩ := bind_eq_ok_iff.1 h
    obtain ⟨-, a, rfl, rfl⟩ := register_eq_ok_iff.1 h
    rw [get?_put, Offer.last?, List.reverse_concat, List.lookup_cons]
    by_cases hname : name = other
    · simp [hname]
    · rw [if_neg hname, ih hr', beq_eq_false_iff_ne.2 hname]
      rfl

/-- Routines under distinct usable names are registered as they stand. -/
theorem ofOffers_routines {entries : List (String × α)} (h : WellFormed ⟨entries⟩) :
    ofOffers (entries.map fun (name, a) => (name, .routine a)) = .ok ⟨entries⟩ := by
  induction entries using List.reverseRecOn with
  | nil => rfl
  | append_singleton entries e ih =>
    obtain ⟨name, a⟩ := e
    obtain ⟨hnodup, husable⟩ := h
    simp only [List.map_append, List.map_singleton] at hnodup husable
    have hnew : name ∉ entries.map (·.1) := fun hmem =>
      (List.nodup_append.1 hnodup).2.2 name hmem name (by simp) rfl
    have hrest : ofOffers (entries.map fun (name, a) => (name, .routine a)) = .ok ⟨entries⟩ :=
      ih ⟨(List.nodup_append.1 hnodup).1, fun other hother => husable other (by simp [hother])⟩
    rw [List.map_append, List.map_singleton, ofOffers_concat, hrest]
    exact register_eq_ok_iff.2
      ⟨husable name (by simp), a, rfl, by rw [Assoc.put_of_not_mem hnew]⟩

/-- The rules of the library have distinct usable names. -/
theorem builtins_wellFormed (host : Host) : (builtins host).WellFormed := by
  have hnames : (builtins host).entries.map (·.1) =
      (builtins (.standard ⟨2026, 6, 15, rfl⟩)).entries.map (·.1) := rfl
  constructor <;> rw [hnames] <;> decide +kernel

/-- The registry of the rules of the library is made by registering them. -/
theorem ofOffers_builtins (host : Host) :
    ofOffers (Builtin.offers host) = .ok (builtins host) :=
  ofOffers_routines (builtins_wellFormed host)

/-- **A copy** holds what the registry holds. -/
theorem WellFormed.copy (h : r.WellFormed) : r.copy = .ok r := ofOffers_routines h

/-! ## Listing and looking up -/

/-- What is true of the names in a registry: they can be declared, they are listed in increasing
order, each rule with its name, and they are the names that resolve. -/
structure Orderly (r : Registry α) : Prop where
  usable : ∀ name ∈ r.names, name ≠ "" ∧ '|' ∉ name.toList ∧ ',' ∉ name.toList
  increasing : r.names.Pairwise (· < ·)
  stored : ∀ name, name ∈ r.names ↔ (r.get? name).isSome
  length : r.names.length = r.size
  resolved : ∀ name field, (∃ a, r.resolve name field = .ok a) ↔ name ∈ r.names

/-- The names are those of the entries, in another order. -/
theorem mem_names_iff : name ∈ r.names ↔ name ∈ r.entries.map (·.1) :=
  List.mem_mergeSort

/-- A name is listed when there is a rule under it. -/
theorem mem_names_iff_isSome : name ∈ r.names ↔ (r.get? name).isSome := by
  rw [mem_names_iff, get?, Assoc.isSome_lookup_iff]

/-- A name is resolved when there is a rule under it. -/
theorem exists_resolve_iff {field : Option String} :
    (∃ a, r.resolve name field = .ok a) ↔ (r.get? name).isSome := by
  rw [resolve]
  cases r.get? name <;> simp

/-- Names are listed in increasing order, since they are sorted and none stands twice. -/
theorem WellFormed.increasing (h : r.WellFormed) : r.names.Pairwise (· < ·) := by
  have htrans (a b c : String) (hab : decide (a ≤ b)) (hbc : decide (b ≤ c)) : decide (a ≤ c) :=
    decide_eq_true (String.le_trans (of_decide_eq_true hab) (of_decide_eq_true hbc))
  have htotal (a b : String) : decide (a ≤ b) || decide (b ≤ a) := by
    simp [String.le_total]
  have hsorted : r.names.Pairwise fun a b => decide (a ≤ b) :=
    List.pairwise_mergeSort htrans htotal _
  have hnodup : r.names.Nodup := (List.mergeSort_perm _ _).nodup_iff.2 h.nodup
  refine hsorted.imp₂ (fun a b hle hne => ?_) hnodup
  exact String.not_le.1 fun hge => hne (String.le_antisymm (of_decide_eq_true hle) hge)

/-- **The names in a registry.** -/
theorem WellFormed.orderly (h : r.WellFormed) : r.Orderly where
  usable name hname := isUsableName_iff.1 (h.usable name (mem_names_iff.1 hname))
  increasing := h.increasing
  stored _ := mem_names_iff_isSome
  length := by rw [names, List.length_mergeSort, List.length_map, size]
  resolved _ _ := exists_resolve_iff.trans mem_names_iff_isSome.symm

end Registry

end RecordRules
