import RecordRules.Proofs.Number.Equality

/-!
# Equality of values

Values without items are equal if they denote the same (`Value.same_iff_atom?`), lists and tuples if their
items are equal in turn, sets and dictionaries if there are as many items and each has an equal one on the
other side. Of values that can occur (`Value.WellFormed`) equality is transitive and symmetric
(`WellFormed.same_trans`, `WellFormed.same_comm`), though not reflexive: "not a number" equals nothing.

A set and a dictionary are searched for the items of the left one only. That each item of the right one is
found then too is the pigeonhole principle (`exists_partner`): no two items of the left one can equal one item
of the right one, since they would equal each other.
-/

namespace RecordRules

/-- If each item has a partner, no two of them the same one, and there are no more partners than items, then
each partner is that of an item. -/
theorem exists_partner {α β : Type} {r : α → β → Prop} {xs : List α} {ys : List β}
    (hlength : ys.length ≤ xs.length) (hpartner : ∀ x ∈ xs, ∃ y ∈ ys, r x y)
    (hdistinct : xs.Pairwise fun x x' => ∀ y ∈ ys, r x y → ¬ r x' y) : ∀ y ∈ ys, ∃ x ∈ xs, r x y := by
  induction xs generalizing ys with
  | nil => simp_all
  | cons x xs ih =>
    obtain ⟨hx, hxs⟩ := List.forall_mem_cons.1 hpartner
    obtain ⟨hfirst, hrest⟩ := List.pairwise_cons.1 hdistinct
    obtain ⟨y₀, hy₀, hr⟩ := hx
    obtain ⟨left, right, rfl⟩ := List.append_of_mem hy₀
    -- The first item's partner is no one else's, so the others have theirs without it.
    have hpartner' : ∀ x' ∈ xs, ∃ y ∈ left ++ right, r x' y := fun x' hx' => by
      obtain ⟨y, hy, hr'⟩ := hxs x' hx'
      have hne : y ≠ y₀ := fun h => hfirst x' hx' y₀ hy₀ hr (h ▸ hr')
      exact ⟨y, by simpa [hne] using hy, hr'⟩
    have hsubset : left ++ right ⊆ left ++ y₀ :: right := by simp
    have hothers := ih (by simp at hlength ⊢; omega) hpartner'
      (hrest.imp fun h y hy => h y (hsubset hy))
    intro y hy
    rcases eq_or_ne y y₀ with rfl | hne
    · exact ⟨x, List.mem_cons_self, hr⟩
    · obtain ⟨x', hx', hr'⟩ := hothers y (by simpa [hne] using hy)
      exact ⟨x', List.mem_cons_of_mem x hx', hr'⟩

namespace Value

variable {u v w : Value} {us vs ws : List Value} {entries entries' : List (Value × Value)}

/-! ## Items -/

/-- Items are compared in turn, and none may be left over. -/
theorem sameItems_iff : sameItems vs ws = true ↔ List.Forall₂ (fun v w => same v w = true) vs ws := by
  induction vs generalizing ws with
  | nil => cases ws <;> simp [sameItems]
  | cons v vs ih => cases ws <;> simp [sameItems, ih]

/-- Each item is searched for among the others. -/
theorem subset_iff : subset vs ws = true ↔ ∀ v ∈ vs, ∃ w ∈ ws, same v w = true := by
  induction vs with
  | nil => simp [subset]
  | cons v vs ih => simp [subset, ih]

/-- Each entry is searched for by its key, and the value there is compared. -/
theorem subentries_iff : subentries entries entries' = true ↔
    ∀ e ∈ entries, ∃ f ∈ entries', same e.1 f.1 = true ∧ same e.2 f.2 = true := by
  induction entries with
  | nil => simp [subentries]
  | cons e entries ih =>
    obtain ⟨k, v⟩ := e
    rw [subentries, Bool.and_eq_true, ih, List.any_eq_true, List.forall_mem_cons]
    simp only [Bool.and_eq_true]

/-- What equals a list is a list of equal items. -/
theorem same_list_iff : same (list vs) w = true ↔
    ∃ ws, w = list ws ∧ List.Forall₂ (fun v w => same v w = true) vs ws := by
  cases w <;> simp [same, asNumber, sameNumber, sameItems_iff]

/-- What equals a tuple is a tuple of equal items. -/
theorem same_tuple_iff : same (tuple vs) w = true ↔
    ∃ ws, w = tuple ws ∧ List.Forall₂ (fun v w => same v w = true) vs ws := by
  cases w <;> simp [same, asNumber, sameNumber, sameItems_iff]

/-- What equals a set is a set of as many items, among them one that equals each item. -/
theorem same_set_iff : same (set vs) w = true ↔
    ∃ ws, w = set ws ∧ vs.length = ws.length ∧ ∀ v ∈ vs, ∃ w ∈ ws, same v w = true := by
  cases w <;> simp [same, asNumber, sameNumber, subset_iff]

/-- What equals a dictionary is a dictionary of as many entries, among them one that equals each
entry. -/
theorem same_dict_iff : same (dict entries) w = true ↔ ∃ entries', w = dict entries' ∧
    entries.length = entries'.length ∧
    ∀ e ∈ entries, ∃ f ∈ entries', same e.1 f.1 = true ∧ same e.2 f.2 = true := by
  cases w <;> simp [same, asNumber, sameNumber, subentries_iff]

/-! ## Values without items -/

/-- What a value without items denotes: a quantity, a moment, or itself. -/
inductive Atom
  | quantity (q : Quantity)
  | moment (zoned : Bool) (instant : Int)
  | plain (v : Value)

/-- What a value denotes. "Not a number" denotes nothing, and neither do values with items. -/
def atom? : Value → Option Atom
  | list _ | tuple _ | set _ | dict _ => none
  | datetime t => some (.moment t.offset.isSome t.instant)
  | null => some (.plain null)
  | text s => some (.plain (text s))
  | date d => some (.plain (date d))
  | upload u => some (.plain (upload u))
  | rule i => some (.plain (rule i))
  | v => v.quantity?.map .quantity

/-- True of values without items, numbers among them in the form in which they are kept. -/
def IsProperAtom : Value → Prop
  | list _ | tuple _ | set _ | dict _ => False
  | float x => x.IsProper
  | _ => True

/-- Values that can occur: numbers are in the form in which they are kept, no two items of a set are equal,
and no two keys of a dictionary. -/
inductive WellFormed : Value → Prop
  | atom {v : Value} (h : v.IsProperAtom) : WellFormed v
  | list {vs : List Value} (h : ∀ v ∈ vs, WellFormed v) : WellFormed (list vs)
  | tuple {vs : List Value} (h : ∀ v ∈ vs, WellFormed v) : WellFormed (tuple vs)
  | set {vs : List Value} (h : ∀ v ∈ vs, WellFormed v)
      (hdistinct : vs.Pairwise fun v w => same v w = false) : WellFormed (set vs)
  | dict {entries : List (Value × Value)} (hkeys : ∀ e ∈ entries, WellFormed e.1)
      (hvalues : ∀ e ∈ entries, WellFormed e.2)
      (hdistinct : entries.Pairwise fun e f => same e.1 f.1 = false) : WellFormed (dict entries)

@[simp] theorem wellFormed_list_iff : WellFormed (list vs) ↔ ∀ v ∈ vs, v.WellFormed := by
  refine ⟨fun h => ?_, .list⟩
  cases h with
  | atom h => cases h
  | list h => exact h

@[simp] theorem wellFormed_tuple_iff : WellFormed (tuple vs) ↔ ∀ v ∈ vs, v.WellFormed := by
  refine ⟨fun h => ?_, .tuple⟩
  cases h with
  | atom h => cases h
  | tuple h => exact h

/-- No two items of a set are equal. -/
theorem wellFormed_set_iff : WellFormed (set vs) ↔
    (∀ v ∈ vs, v.WellFormed) ∧ vs.Pairwise fun v w => same v w = false := by
  refine ⟨fun h => ?_, fun ⟨h, hdistinct⟩ => .set h hdistinct⟩
  cases h with
  | atom h => cases h
  | set h hdistinct => exact ⟨h, hdistinct⟩

/-- No two keys of a dictionary are equal. -/
theorem wellFormed_dict_iff : WellFormed (dict entries) ↔
    (∀ e ∈ entries, e.1.WellFormed ∧ e.2.WellFormed) ∧
      entries.Pairwise fun e f => same e.1 f.1 = false := by
  refine ⟨fun h => ?_, fun ⟨h, hdistinct⟩ =>
    .dict (fun e he => (h e he).1) (fun e he => (h e he).2) hdistinct⟩
  cases h with
  | atom h => cases h
  | dict hkeys hvalues hdistinct => exact ⟨fun e he => ⟨hkeys e he, hvalues e he⟩, hdistinct⟩

@[simp] theorem wellFormed_float_iff {x : Binary64} : WellFormed (float x) ↔ x.IsProper := by
  refine ⟨fun h => ?_, fun h => .atom h⟩
  cases h with
  | atom h => exact h

@[simp] theorem wellFormed_null : WellFormed null := .atom trivial

@[simp] theorem wellFormed_bool (b : Bool) : WellFormed (bool b) := .atom trivial

@[simp] theorem wellFormed_int (n : Int) : WellFormed (int n) := .atom trivial

@[simp] theorem wellFormed_text (s : String) : WellFormed (text s) := .atom trivial

/-- What denotes something has no items. -/
theorem WellFormed.isProperAtom {a : Atom} (h : v.WellFormed) (ha : v.atom? = some a) : v.IsProperAtom := by
  cases h with
  | atom h => exact h
  | list | tuple | set | dict => cases ha

/-- A value denotes a quantity only as a number. -/
theorem atom?_eq_quantity_iff {q : Quantity} : v.atom? = some (.quantity q) ↔ v.quantity? = some q := by
  cases v <;> simp [atom?, quantity?]

/-- What a number denotes is its quantity; "not a number" denotes nothing. -/
theorem atom?_number (h : v.IsProperNumber) : v.atom? = v.quantity?.map .quantity := by
  cases v with
  | bool | int | float | decimal => rfl
  | _ => cases h

/-- A number is compared by what both sides are as numbers. -/
theorem same_number (h : v.IsProperNumber) : same v w = sameNumber v.asNumber w.asNumber := by
  cases v with
  | bool | int | float | decimal => simp [same]
  | _ => cases h

/-- A value that is not a number denotes no quantity and equals no number. -/
theorem WellFormed.number_cases (h : w.WellFormed) : w.IsProperNumber ∨
    w.quantity? = none ∧ ∀ v, sameNumber v w.asNumber = false := by
  cases w with
  | bool | int | decimal => exact .inl trivial
  | float x => exact .inl (wellFormed_float_iff.1 h)
  | _ => exact .inr ⟨rfl, fun v => by cases v <;> rfl⟩

/-- A number equals what denotes the same quantity. -/
theorem same_number_iff (hv : v.IsProperNumber) (hw : w.WellFormed) :
    same v w = true ↔ ∃ a, v.atom? = some a ∧ w.atom? = some a := by
  have hatom : (∃ a, v.atom? = some a ∧ w.atom? = some a) ↔
      ∃ q, v.quantity? = some q ∧ w.quantity? = some q := by
    rw [atom?_number hv]
    simp [Option.map_eq_some_iff, atom?_eq_quantity_iff]
  rw [hatom, same_number hv]
  rcases hw.number_cases with hw | ⟨hnone, hsame⟩
  · exact sameNumber_iff hv hw
  · simp [hnone, hsame]

/-- **A value without items equals what denotes the same.** -/
theorem same_iff_atom? (hv : v.IsProperAtom) (hw : w.WellFormed) :
    same v w = true ↔ ∃ a, v.atom? = some a ∧ w.atom? = some a := by
  cases v with
  | bool | int | float | decimal => exact same_number_iff hv hw
  | list | tuple | set | dict => cases hv
  | datetime t =>
    cases w <;> simp [same, asNumber, sameNumber, atom?, DateTime.sameMoment, eq_comm (a := t.instant),
      eq_comm (a := t.offset.isSome)]
  | null => cases w <;> simp [same, isNull, atom?]
  | text s => cases w <;> simp [same, asNumber, sameNumber, atom?, eq_comm (a := s)]
  | date d => cases w <;> simp [same, asNumber, sameNumber, atom?, eq_comm (a := d)]
  | upload u => cases w <;> simp [same, asNumber, sameNumber, atom?, eq_comm (a := u)]
  | rule i => cases w <;> simp [same, asNumber, sameNumber, atom?, eq_comm (a := i)]

/-! ## A partial equivalence -/

/-- Equality in turn is transitive where equality of the items is. -/
theorem sameItems_trans (huv : List.Forall₂ (fun u v => same u v = true) us vs)
    (hvw : List.Forall₂ (fun v w => same v w = true) vs ws)
    (h : ∀ u ∈ us, ∀ v ∈ vs, ∀ w ∈ ws, same u v = true → same v w = true → same u w = true) :
    List.Forall₂ (fun u w => same u w = true) us ws := by
  induction huv generalizing ws with
  | nil => exact hvw
  | cons hsame huv ih =>
    cases hvw with
    | cons hsame' hvw =>
      simp only [List.forall_mem_cons] at h
      exact .cons (h.1.1.1 hsame hsame') (ih hvw fun u hu v hv w hw => ((h.2 u hu).2 v hv).2 w hw)

/-- **Equality is transitive.** The induction is on the first value; the parts of the others come with it. -/
theorem WellFormed.same_trans (hu : u.WellFormed) (hv : v.WellFormed) (hw : w.WellFormed)
    (huv : same u v = true) (hvw : same v w = true) : same u w = true := by
  induction hu generalizing v w with
  | atom hatom =>
    obtain ⟨a, hua, hva⟩ := (same_iff_atom? hatom hv).1 huv
    obtain ⟨b, hvb, hwb⟩ := (same_iff_atom? (hv.isProperAtom hva) hw).1 hvw
    obtain rfl : a = b := Option.some.inj (hva.symm.trans hvb)
    exact (same_iff_atom? hatom hw).2 ⟨a, hua, hwb⟩
  | list hus ih =>
    obtain ⟨vs, rfl, hitems⟩ := same_list_iff.1 huv
    obtain ⟨ws, rfl, hitems'⟩ := same_list_iff.1 hvw
    exact same_list_iff.2 ⟨ws, rfl, sameItems_trans hitems hitems' fun u hu v hv' w hw' =>
      ih u hu (wellFormed_list_iff.1 hv v hv') (wellFormed_list_iff.1 hw w hw')⟩
  | tuple hus ih =>
    obtain ⟨vs, rfl, hitems⟩ := same_tuple_iff.1 huv
    obtain ⟨ws, rfl, hitems'⟩ := same_tuple_iff.1 hvw
    exact same_tuple_iff.2 ⟨ws, rfl, sameItems_trans hitems hitems' fun u hu v hv' w hw' =>
      ih u hu (wellFormed_tuple_iff.1 hv v hv') (wellFormed_tuple_iff.1 hw w hw')⟩
  | set hus hdistinct ih =>
    obtain ⟨vs, rfl, hlength, huv⟩ := same_set_iff.1 huv
    obtain ⟨ws, rfl, hlength', hvw⟩ := same_set_iff.1 hvw
    obtain ⟨hvs, -⟩ := wellFormed_set_iff.1 hv
    obtain ⟨hws, -⟩ := wellFormed_set_iff.1 hw
    refine same_set_iff.2 ⟨ws, rfl, hlength.trans hlength', fun u hu => ?_⟩
    obtain ⟨v, hv', hsame⟩ := huv u hu
    obtain ⟨w, hw', hsame'⟩ := hvw v hv'
    exact ⟨w, hw', ih u hu (hvs v hv') (hws w hw') hsame hsame'⟩
  | dict hkeys hvalues hdistinct ihkeys ihvalues =>
    obtain ⟨vs, rfl, hlength, huv⟩ := same_dict_iff.1 huv
    obtain ⟨ws, rfl, hlength', hvw⟩ := same_dict_iff.1 hvw
    obtain ⟨hvs, -⟩ := wellFormed_dict_iff.1 hv
    obtain ⟨hws, -⟩ := wellFormed_dict_iff.1 hw
    refine same_dict_iff.2 ⟨ws, rfl, hlength.trans hlength', fun e he => ?_⟩
    obtain ⟨f, hf, hkey, hvalue⟩ := huv e he
    obtain ⟨g, hg, hkey', hvalue'⟩ := hvw f hf
    exact ⟨g, hg, ihkeys e he (hvs f hf).1 (hws g hg).1 hkey hkey',
      ihvalues e he (hvs f hf).2 (hws g hg).2 hvalue hvalue'⟩

/-- Equality in turn is symmetric where equality of the items is. -/
theorem sameItems_symm (hvw : List.Forall₂ (fun v w => same v w = true) vs ws)
    (h : ∀ v ∈ vs, ∀ w ∈ ws, same v w = true → same w v = true) :
    List.Forall₂ (fun w v => same w v = true) ws vs := by
  induction hvw with
  | nil => exact .nil
  | cons hsame hvw ih =>
    simp only [List.forall_mem_cons] at h
    exact .cons (h.1.1 hsame) (ih fun v hv => (h.2 v hv).2)

/-- A value equals what equals it. Two items of a set, or keys of a dictionary, that equal the same would
equal each other by transitivity. -/
theorem WellFormed.same_symm (hv : v.WellFormed) (hw : w.WellFormed) (hvw : same v w = true) :
    same w v = true := by
  induction hv generalizing w with
  | atom hatom =>
    obtain ⟨a, hva, hwa⟩ := (same_iff_atom? hatom hw).1 hvw
    exact (same_iff_atom? (hw.isProperAtom hwa) (.atom hatom)).2 ⟨a, hwa, hva⟩
  | list hvs ih =>
    obtain ⟨ws, rfl, hitems⟩ := same_list_iff.1 hvw
    exact same_list_iff.2 ⟨_, rfl, sameItems_symm hitems fun v hv w hw' =>
      ih v hv (wellFormed_list_iff.1 hw w hw')⟩
  | tuple hvs ih =>
    obtain ⟨ws, rfl, hitems⟩ := same_tuple_iff.1 hvw
    exact same_tuple_iff.2 ⟨_, rfl, sameItems_symm hitems fun v hv w hw' =>
      ih v hv (wellFormed_tuple_iff.1 hw w hw')⟩
  | @set vs hvs hdistinct ih =>
    obtain ⟨ws, rfl, hlength, hitems⟩ := same_set_iff.1 hvw
    obtain ⟨hws, -⟩ := wellFormed_set_iff.1 hw
    have hpartner : ∀ w ∈ ws, ∃ v ∈ vs, same v w = true :=
      exists_partner hlength.ge hitems (hdistinct.imp_of_mem fun {v v'} hv hv' hne w hw hvw hvw' => by
        have hwv' := ih v' hv' (hws w hw) hvw'
        rw [(hvs v hv).same_trans (hws w hw) (hvs v' hv') hvw hwv'] at hne
        cases hne)
    refine same_set_iff.2 ⟨vs, rfl, hlength.symm, fun w hw => ?_⟩
    obtain ⟨v, hv, hsame⟩ := hpartner w hw
    exact ⟨v, hv, ih v hv (hws w hw) hsame⟩
  | @dict vs hkeys hvalues hdistinct ihkeys ihvalues =>
    obtain ⟨ws, rfl, hlength, hitems⟩ := same_dict_iff.1 hvw
    obtain ⟨hws, -⟩ := wellFormed_dict_iff.1 hw
    have hpartner : ∀ f ∈ ws, ∃ e ∈ vs, same e.1 f.1 = true ∧ same e.2 f.2 = true :=
      exists_partner hlength.ge hitems
        (hdistinct.imp_of_mem fun {e e'} he he' hne f hf hsame hsame' => by
          have hkey' := ihkeys e' he' (hws f hf).1 hsame'.1
          rw [(hkeys e he).same_trans (hws f hf).1 (hkeys e' he') hsame.1 hkey'] at hne
          cases hne)
    refine same_dict_iff.2 ⟨vs, rfl, hlength.symm, fun f hf => ?_⟩
    obtain ⟨e, he, hkey, hvalue⟩ := hpartner f hf
    exact ⟨e, he, ihkeys e he (hws f hf).1 hkey, ihvalues e he (hws f hf).2 hvalue⟩

/-- **Equality is symmetric.** -/
theorem WellFormed.same_comm (hv : v.WellFormed) (hw : w.WellFormed) : same v w = same w v :=
  Bool.eq_iff_iff.2 ⟨hv.same_symm hw, hw.same_symm hv⟩

/-- A set that had an item twice would be within another that is not within it. -/
example : same (set [int 1, int 1]) (set [int 1, int 2]) = true ∧
    same (set [int 1, int 2]) (set [int 1, int 1]) = false := by decide +kernel

end Value

end RecordRules
