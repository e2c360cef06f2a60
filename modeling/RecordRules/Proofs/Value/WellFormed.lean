import RecordRules.Proofs.Value.Equality

/-!
# Sets and dictionaries are well-formed

A set takes an item only if it has no equal one, and a dictionary gives a key that it has a new value. So no
two items of a set and no two keys of a dictionary are equal, whatever they are made from
(`Value.wellFormed_setOf`, `Value.wellFormed_dictOf`). A record is well-formed if its fields hold well-formed
values.
-/

namespace RecordRules.Value

variable {v key value : Value} {items : List Value} {entries : List (Value × Value)}

/-! ## Dictionaries -/

/-- An entry that a change of a dictionary brings has the new value, for a key from before or the new one. -/
theorem mem_insertEntry {e : Value × Value} (h : e ∈ insertEntry key value entries) :
    e ∈ entries ∨ e.2 = value ∧ (e.1 = key ∨ e.1 ∈ entries.map Prod.fst) := by
  fun_induction insertEntry key value entries with
  | case1 => simp_all
  | case2 k v rest hsame =>
    rcases List.mem_cons.1 h with rfl | h
    · exact .inr ⟨rfl, .inr List.mem_cons_self⟩
    · exact .inl (List.mem_cons_of_mem _ h)
  | case3 k v rest hsame ih =>
    rcases List.mem_cons.1 h with rfl | h
    · exact .inl List.mem_cons_self
    · exact (ih h).imp (List.mem_cons_of_mem _) (And.imp_right (Or.imp_right (List.mem_cons_of_mem _)))

/-- No two keys of a dictionary are equal after a change. -/
theorem pairwise_insertEntry (h : entries.Pairwise fun e f => same e.1 f.1 = false) :
    (insertEntry key value entries).Pairwise fun e f => same e.1 f.1 = false := by
  fun_induction insertEntry key value entries with
  | case1 => exact List.pairwise_singleton _ _
  | case2 k v rest hsame => exact List.pairwise_cons.2 (List.pairwise_cons.1 h)
  | case3 k v rest hsame ih =>
    obtain ⟨hfirst, hrest⟩ := List.pairwise_cons.1 h
    refine List.pairwise_cons.2 ⟨fun e he => ?_, ih hrest⟩
    rcases mem_insertEntry he with he | ⟨-, hkey | hkey⟩
    · exact hfirst e he
    · exact hkey ▸ Bool.eq_false_iff.2 hsame
    · obtain ⟨f, hf, hkey⟩ := List.mem_map.1 hkey
      exact hkey ▸ hfirst f hf

/-- Putting an entry keeps keys distinct: an equal key keeps its place. -/
theorem WellFormed.insertEntry (h : WellFormed (.dict entries)) (hkey : key.WellFormed)
    (hvalue : value.WellFormed) : WellFormed (.dict (insertEntry key value entries)) := by
  obtain ⟨hentries, hdistinct⟩ := wellFormed_dict_iff.1 h
  refine wellFormed_dict_iff.2 ⟨fun e he => ?_, pairwise_insertEntry hdistinct⟩
  rcases mem_insertEntry he with he | ⟨hnew, hkept | hkept⟩
  · exact hentries e he
  · exact ⟨hkept ▸ hkey, hnew ▸ hvalue⟩
  · obtain ⟨f, hf, hkept⟩ := List.mem_map.1 hkept
    exact ⟨hkept ▸ (hentries f hf).1, hnew ▸ hvalue⟩

/-- So does putting one entry after another. -/
theorem wellFormed_foldl_insertEntry {added : List (Value × Value)} (h : WellFormed (.dict entries))
    (hadded : ∀ e ∈ added, e.1.WellFormed ∧ e.2.WellFormed) :
    WellFormed (.dict (added.foldl (fun acc (k, v) => insertEntry k v acc) entries)) := by
  induction added generalizing entries with
  | nil => exact h
  | cons e added ih =>
    obtain ⟨he, hadded⟩ := List.forall_mem_cons.1 hadded
    exact ih (h.insertEntry he.1 he.2) hadded

/-- **A dictionary of well-formed keys and values is well-formed.** -/
theorem wellFormed_dictOf (h : ∀ e ∈ entries, e.1.WellFormed ∧ e.2.WellFormed) :
    (dictOf entries).WellFormed :=
  wellFormed_foldl_insertEntry (.dict (List.forall_mem_nil _) (List.forall_mem_nil _) .nil) h

/-! ## Sets -/

/-- The items of a set stay the same when they are put in order. -/
theorem setOrder_perm (items : List Value) : (setOrder items).Perm items := by
  refine ((List.mergeSort_perm _ _).map int).append_right _ |>.trans ?_
  induction items with
  | nil => exact .nil
  | cons v items ih =>
    cases v with
    | int n => exact ih.cons _
    | _ => exact List.perm_middle.trans (ih.cons _)

/-- Items that are all different are so in any order. -/
theorem pairwise_of_perm {items' : List Value} (hperm : items.Perm items')
    (h : ∀ v ∈ items, v.WellFormed) (hdistinct : items.Pairwise fun v w => same v w = false) :
    items'.Pairwise fun v w => same v w = false := by
  have hpairwise : items.Pairwise fun v w => v.WellFormed → w.WellFormed → same v w = false :=
    hdistinct.imp fun hne _ _ => hne
  have hsymm {v w : Value} (hne : v.WellFormed → w.WellFormed → same v w = false) :
      w.WellFormed → v.WellFormed → same w v = false := fun hw hv => (hw.same_comm hv).trans (hne hv hw)
  refine ((hperm.pairwise_iff hsymm).1 hpairwise).imp_of_mem fun hv hw hne => ?_
  exact hne (h _ (hperm.mem_iff.2 hv)) (h _ (hperm.mem_iff.2 hw))

/-- An item is added to a set only if none of those in it equals it. -/
theorem WellFormed.add (h : WellFormed (.set items)) (hv : v.WellFormed) :
    WellFormed (.set (if items.any (same v) then items else items ++ [v])) := by
  split
  · exact h
  · next hnew =>
    obtain ⟨hitems, hdistinct⟩ := wellFormed_set_iff.1 h
    have hdifferent : ∀ w ∈ items, same w v = false := fun w hw => by
      rw [(hitems w hw).same_comm hv]
      exact Bool.eq_false_iff.2 fun hsame => hnew (List.any_eq_true.2 ⟨w, hw, hsame⟩)
    refine wellFormed_set_iff.2 ⟨List.forall_mem_append.2 ⟨hitems, List.forall_mem_singleton.2 hv⟩, ?_⟩
    exact List.pairwise_append.2 ⟨hdistinct, List.pairwise_singleton _ _, fun w hw =>
      List.forall_mem_singleton.2 (hdifferent w hw)⟩

/-- Adding items that are not there yet keeps the items of a set distinct. -/
theorem wellFormed_foldl_add {added : List Value} (h : WellFormed (.set items))
    (hadded : ∀ v ∈ added, v.WellFormed) :
    WellFormed (.set (added.foldl (fun acc v => if acc.any (same v) then acc else acc ++ [v]) items)) := by
  induction added generalizing items with
  | nil => exact h
  | cons v added ih =>
    obtain ⟨hv, hadded⟩ := List.forall_mem_cons.1 hadded
    exact ih (h.add hv) hadded

/-- **A set of well-formed items is well-formed.** -/
theorem wellFormed_setOf (h : ∀ v ∈ items, v.WellFormed) : (setOf items).WellFormed := by
  have hset := wellFormed_foldl_add (.set (List.forall_mem_nil _) .nil) h
  rw [setOf]
  generalize items.foldl (fun acc v => if acc.any (same v) then acc else acc ++ [v]) [] = kept at hset
  obtain ⟨hkept, hdistinct⟩ := wellFormed_set_iff.1 hset
  have hperm := setOrder_perm kept
  exact .set (fun v hv => hkept v (hperm.mem_iff.1 hv)) (pairwise_of_perm hperm.symm hkept hdistinct)

end RecordRules.Value

namespace RecordRules.Record

/-! ## Records -/

/-- The fields of a record hold well-formed values. -/
def WellFormed (record : Record) : Prop := ∀ e ∈ record, e.2.WellFormed

/-- The fields of a well-formed record hold well-formed values, and a missing one none at all. -/
theorem WellFormed.value {record : Record} (h : record.WellFormed) (field : String) :
    (record.value field).WellFormed := by
  rw [Record.value]
  cases hlookup : record.lookup field with
  | none => exact .atom trivial
  | some v =>
    obtain ⟨before, after, heq, -⟩ := List.lookup_eq_some_iff.1 hlookup
    exact h (field, v) (heq ▸ List.mem_append_right before List.mem_cons_self)

end RecordRules.Record
