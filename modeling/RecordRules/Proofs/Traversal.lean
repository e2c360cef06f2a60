import Mathlib.Data.List.Forall2

/-!
# Traversals up to the first error

Declarations, rule sets and plans are read by traversals that stop at the first error. A traversal
that succeeds relates the items to the results one by one (`mapM_eq_ok_iff`); one that fails has
the error of an item before which every item succeeds (`mapM_eq_error_iff`). Where only the fact
counts that a computation fails, `Raises` says so.
-/

namespace RecordRules

variable {ε α β : Type}

/-- A sequence of two computations succeeds when both do. -/
theorem bind_eq_ok_iff {x : Except ε α} {f : α → Except ε β} {b : β} :
    (x >>= f) = .ok b ↔ ∃ a, x = .ok a ∧ f a = .ok b := by
  cases x <;> simp [bind, Except.bind]

/-- A step that only returns something is a map. -/
theorem bind_pure_eq_map {x : Except ε α} {f : α → β} : (x >>= fun a => pure (f a)) = x.map f := by
  cases x <;> rfl

/-- What a map yields comes from what is mapped. -/
theorem map_eq_ok_iff {x : Except ε α} {f : α → β} {b : β} :
    x.map f = .ok b ↔ ∃ a, x = .ok a ∧ f a = b := by
  cases x <;> simp [Except.map]

/-- Two computations end alike when both fail with one error or both have results that are alike. -/
theorem map_eq_map_iff {x y : Except ε α} {f : α → β} : x.map f = y.map f ↔
    (∃ e, x = .error e ∧ y = .error e) ∨ ∃ a b, x = .ok a ∧ y = .ok b ∧ f a = f b := by
  cases x <;> cases y <;> simp [Except.map, eq_comm]

/-- A sequence of two computations fails with the first error. -/
theorem bind_eq_error_iff {x : Except ε α} {f : α → Except ε β} {e : ε} :
    (x >>= f) = .error e ↔ x = .error e ∨ ∃ a, x = .ok a ∧ f a = .error e := by
  cases x <;> simp [bind, Except.bind]

/-- Renaming errors changes no result. -/
theorem mapError_eq_ok_iff {δ : Type} {x : Except ε α} {f : ε → δ} {a : α} :
    x.mapError f = .ok a ↔ x = .ok a := by
  cases x <;> simp [Except.mapError]

/-- A renamed error comes from an error. -/
theorem mapError_eq_error_iff {δ : Type} {x : Except ε α} {f : ε → δ} {e : δ} :
    x.mapError f = .error e ↔ ∃ e', x = .error e' ∧ f e' = e := by
  cases x <;> simp [Except.mapError]

/-! ## Raising -/

/-- A computation ends in an error. -/
def Raises (x : Except ε α) : Prop := ∃ e, x = .error e

@[simp] theorem raises_ok (a : α) : ¬ Raises (.ok a : Except ε α) := fun ⟨_, h⟩ => nomatch h

@[simp] theorem raises_pure (a : α) : ¬ Raises (pure a : Except ε α) := raises_ok a

@[simp] theorem raises_error (e : ε) : Raises (.error e : Except ε α) := ⟨e, rfl⟩

@[simp] theorem raises_throw (e : ε) : Raises (throw e : Except ε α) := ⟨e, rfl⟩

/-- A computation that does not succeed raises. -/
theorem isOk_eq_false_iff {x : Except ε α} : x.isOk = false ↔ Raises x := by
  cases x <;> simp [Except.isOk, Except.toBool]

/-- A sequence of two computations raises when one of them does. -/
theorem raises_bind_iff {x : Except ε α} {f : α → Except ε β} {p : Prop}
    (h : ∀ a, Raises (f a) ↔ p) : Raises (x >>= f) ↔ Raises x ∨ p := by
  cases x with
  | error e => simp [bind, Except.bind]
  | ok a => simp [bind, Except.bind, h]

@[simp] theorem raises_ite {p : Prop} [Decidable p] {x y : Except ε α} :
    Raises (if p then x else y) ↔ (p ∧ Raises x) ∨ (¬ p ∧ Raises y) := by
  by_cases h : p <;> simp [h]

@[simp] theorem raises_map {x : Except ε α} {f : α → β} : Raises (x.map f) ↔ Raises x := by
  cases x <;> simp [Except.map]

@[simp] theorem raises_fmap {x : Except ε α} {f : α → β} : Raises (f <$> x) ↔ Raises x := raises_map

@[simp] theorem raises_bind_pure {x : Except ε α} {f : α → β} :
    Raises (x >>= fun a => pure (f a)) ↔ Raises x := by
  rw [bind_pure_eq_map, raises_map]

@[simp] theorem raises_mapError {δ : Type} {x : Except ε α} {f : ε → δ} :
    Raises (x.mapError f) ↔ Raises x := by
  cases x <;> simp [Except.mapError]

/-! ## Traversals -/

/-- A traversal succeeds when every item does, and gives their results in order. -/
theorem mapM_eq_ok_iff {f : α → Except ε β} {items : List α} {results : List β} :
    items.mapM f = .ok results ↔ List.Forall₂ (fun a b => f a = .ok b) items results := by
  induction items generalizing results with
  | nil => simp [pure, Except.pure, eq_comm]
  | cons a rest ih =>
    rw [List.mapM_cons, bind_eq_ok_iff]
    constructor
    · rintro ⟨b, hb, h⟩
      obtain ⟨bs, hbs, h⟩ := bind_eq_ok_iff.1 h
      cases h
      exact .cons hb (ih.1 hbs)
    · rintro (_ | ⟨hb, hbs⟩)
      exact ⟨_, hb, bind_eq_ok_iff.2 ⟨_, ih.2 hbs, rfl⟩⟩

/-- A traversal that comes to an end has a result for each item. -/
theorem map_eq_of_mapM_eq_ok {f : α → Except ε β} {items : List α} {results : List β}
    (h : items.mapM f = .ok results) : items.map f = results.map .ok := by
  rw [← List.forall₂_eq_eq_eq, List.forall₂_map_left_iff, List.forall₂_map_right_iff]
  exact mapM_eq_ok_iff.1 h

/-- A traversal fails with the error of the first item that fails. -/
theorem mapM_eq_error_iff {f : α → Except ε β} {items : List α} {e : ε} :
    items.mapM f = .error e ↔ ∃ before a after, items = before ++ a :: after ∧
      (∀ x ∈ before, ∃ b, f x = .ok b) ∧ f a = .error e := by
  induction items with
  | nil => simp [pure, Except.pure]
  | cons a rest ih =>
    rw [List.mapM_cons, bind_eq_error_iff]
    constructor
    · rintro (ha | ⟨b, hb, h⟩)
      · exact ⟨[], a, rest, rfl, by simp, ha⟩
      · rcases bind_eq_error_iff.1 h with h | ⟨_, _, h⟩
        · obtain ⟨before, x, after, rfl, hbefore, hx⟩ := ih.1 h
          exact ⟨a :: before, x, after, rfl, by simpa using ⟨⟨b, hb⟩, hbefore⟩, hx⟩
        · cases h
    · rintro ⟨before, x, after, hitems, hbefore, hx⟩
      cases before with
      | nil =>
        cases hitems
        exact .inl hx
      | cons y before =>
        cases hitems
        obtain ⟨b, hb⟩ := hbefore a (by simp)
        have hrest := ih.2 ⟨before, x, after, rfl, fun z hz => hbefore z (by simp [hz]), hx⟩
        exact .inr ⟨b, hb, bind_eq_error_iff.2 (.inl hrest)⟩

/-- A traversal fails when an item does. -/
theorem raises_mapM_iff {f : α → Except ε β} {items : List α} :
    Raises (items.mapM f) ↔ ∃ a ∈ items, Raises (f a) := by
  induction items with
  | nil => simp [Raises, pure, Except.pure]
  | cons a rest ih =>
    rw [List.mapM_cons, raises_bind_iff fun b => raises_bind_pure, ih, List.exists_mem_cons_iff]

/-- A traversal succeeds if every item does. -/
theorem exists_mapM_eq_ok {f : α → Except ε β} {items : List α} (h : ∀ a ∈ items, ∃ b, f a = .ok b) :
    ∃ results, items.mapM f = .ok results := by
  cases hall : items.mapM f with
  | ok results => exact ⟨results, rfl⟩
  | error e =>
    obtain ⟨before, a, after, rfl, -, ha⟩ := mapM_eq_error_iff.1 hall
    obtain ⟨b, hb⟩ := h a (by simp)
    rw [hb] at ha
    cases ha

/-- Each item has a result. -/
theorem exists_of_mem_items {R : α → β → Prop} {items : List α} {results : List β}
    (h : List.Forall₂ R items results) {a : α} (ha : a ∈ items) : ∃ b, R a b := by
  induction h with
  | nil => cases ha
  | cons hab _ ih =>
    rcases List.mem_cons.1 ha with rfl | ha
    exacts [⟨_, hab⟩, ih ha]

/-- Each result is that of an item. -/
theorem exists_of_mem_results {R : α → β → Prop} {items : List α} {results : List β}
    (h : List.Forall₂ R items results) {b : β} (hb : b ∈ results) : ∃ a ∈ items, R a b := by
  induction h with
  | nil => cases hb
  | cons hab _ ih =>
    rcases List.mem_cons.1 hb with rfl | hb
    · exact ⟨_, .head _, hab⟩
    · obtain ⟨a, ha, hab⟩ := ih hb
      exact ⟨a, .tail _ ha, hab⟩

/-- Items related to the related results of other items are related to those. -/
theorem forall₂_comp {γ : Type} {R : α → β → Prop} {S : β → γ → Prop} {items : List α}
    {middle : List β} {results : List γ} (h : List.Forall₂ R items middle)
    (h' : List.Forall₂ S middle results) :
    List.Forall₂ (fun a c => ∃ b, R a b ∧ S b c) items results := by
  induction h generalizing results with
  | nil =>
    cases h'
    exact .nil
  | cons hab _ ih =>
    cases h' with
    | cons hbc hrest => exact .cons ⟨_, hab, hbc⟩ (ih hrest)

end RecordRules
