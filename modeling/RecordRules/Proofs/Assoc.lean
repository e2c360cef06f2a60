import Mathlib.Data.List.Induction
import Mathlib.Data.List.Nodup
import RecordRules.Assoc

/-!
# What associations hold

`Assoc.put` and `Assoc.update` change what is found under one key (`lookup_put`, `lookup_update`).
An association that is filled by updates from a list of items has the keys of the items in the order
of their first occurrence (`pairwise_idxOf_eraseDups`), and under each key what its own items make of
the starting value (`foldl_update`).
-/

namespace RecordRules.Assoc

variable {α β γ : Type} [DecidableEq α]

/-- A key is found when it is one of the keys. -/
theorem isSome_lookup_iff {key : α} {entries : List (α × β)} :
    (entries.lookup key).isSome ↔ key ∈ entries.map (·.1) := by
  rw [List.lookup_isSome_iff, List.mem_map]
  exact exists_congr fun e => and_congr_right fun _ => beq_iff_eq.trans eq_comm

/-- Changing the value of a key changes what is found under that key only. -/
theorem lookup_update (key k : α) (start : β) (f : β → β) (entries : List (α × β)) :
    (update key start f entries).lookup k =
      if k = key then some (f ((entries.lookup key).getD start)) else entries.lookup k := by
  induction entries with
  | nil => by_cases h : k = key <;> simp [update, List.lookup_cons, h, beq_eq_false_iff_ne.2]
  | cons e rest ih =>
    obtain ⟨other, v⟩ := e
    by_cases hother : other = key
    · subst hother
      by_cases h : k = other <;> simp [update, List.lookup_cons, h, beq_eq_false_iff_ne.2]
    · have hkey : (key == other) = false := beq_eq_false_iff_ne.2 (Ne.symm hother)
      by_cases h : k = other
      · simp [update, h, hother]
      · simp [update, List.lookup_cons, hother, hkey, ih, h, beq_eq_false_iff_ne.2]

/-- Giving a key a value is changing the value, whatever it was. -/
theorem put_eq_update (key : α) (value : β) (entries : List (α × β)) :
    put key value entries = update key value (fun _ => value) entries := by
  induction entries with
  | nil => rfl
  | cons e rest ih => rw [put, update, ih]

/-- Putting a key changes what is found under that key, and nothing else. -/
theorem lookup_put (key k : α) (value : β) (entries : List (α × β)) :
    (put key value entries).lookup k = if k = key then some value else entries.lookup k := by
  rw [put_eq_update, lookup_update]

/-- A new key goes to the end. -/
theorem put_of_not_mem {key : α} {entries : List (α × β)} (h : key ∉ entries.map (·.1)) (value : β) :
    put key value entries = entries ++ [(key, value)] := by
  induction entries with
  | nil => rfl
  | cons e rest ih =>
    simp only [List.map_cons, List.mem_cons, not_or] at h
    rw [put, if_neg (Ne.symm h.1), ih h.2, List.cons_append]

/-- Keys stay distinct. -/
theorem nodup_keys_put {entries : List (α × β)} (h : (entries.map (·.1)).Nodup) (key : α)
    (value : β) : ((put key value entries).map (·.1)).Nodup := by
  rw [keys_put]
  split
  · exact h
  · next hkey => exact h.append (List.nodup_singleton key) (by simpa using hkey)

section
variable {P : β → Prop} {entries base : List (α × β)}

/-- What holds of the values and of a new one holds of all afterwards. -/
theorem forall_mem_put {value : β} (key : α) (hvalue : P value) (h : ∀ e ∈ base, P e.2) :
    ∀ e ∈ put key value base, P e.2 := by
  induction base with
  | nil => exact List.forall_mem_singleton.2 hvalue
  | cons e rest ih =>
    obtain ⟨he, hrest⟩ := List.forall_mem_cons.1 h
    rw [put]
    split
    · exact List.forall_mem_cons.2 ⟨hvalue, hrest⟩
    · exact List.forall_mem_cons.2 ⟨he, ih hrest⟩

/-- A property of all values is kept when entries with it are put. -/
theorem forall_mem_putAll (h : ∀ e ∈ entries, P e.2) (hbase : ∀ e ∈ base, P e.2) :
    ∀ e ∈ putAll entries base, P e.2 := by
  induction entries generalizing base with
  | nil => exact hbase
  | cons e rest ih =>
    obtain ⟨he, hrest⟩ := List.forall_mem_cons.1 h
    exact ih hrest (forall_mem_put e.1 he hbase)

/-- It holds of a table if it holds of the entries that the table is made of. -/
theorem forall_mem_ofList (h : ∀ e ∈ entries, P e.2) : ∀ e ∈ ofList entries, P e.2 :=
  forall_mem_putAll h (List.forall_mem_nil _)

end

/-- What is found in an association that is given by a function of its keys. -/
theorem lookup_map (key : α) (keys : List α) (g : α → β) :
    (keys.map fun k => (k, g k)).lookup key = if key ∈ keys then some (g key) else none := by
  induction keys with
  | nil => rfl
  | cons k rest ih =>
    by_cases h : key = k
    · simp [h]
    · simp [List.lookup_cons, h, ih, beq_eq_false_iff_ne.2 h]

/-! ## Filling an association -/

/-- Changing the value of one key of an association that is given by a function of its keys. -/
theorem update_map_of_mem {keys : List α} {key : α} (hnodup : keys.Nodup) (h : key ∈ keys)
    (start : β) (f : β → β) (g : α → β) :
    update key start f (keys.map fun k => (k, g k)) =
      keys.map fun k => (k, if k = key then f (g k) else g k) := by
  induction keys with
  | nil => cases h
  | cons k rest ih =>
    rw [List.nodup_cons] at hnodup
    by_cases hk : k = key
    · subst hk
      have hrest : ∀ k' ∈ rest, k' ≠ k := fun k' hk' heq => hnodup.1 (heq ▸ hk')
      simp only [List.map_cons, update, if_pos]
      congr 1
      exact List.map_congr_left fun k' hk' => by rw [if_neg (hrest k' hk')]
    · have hmem : key ∈ rest := (List.mem_cons.1 h).resolve_left (Ne.symm hk)
      simp [update, hk, ih hnodup.2 hmem]

/-- A key that is not there yet is put last, with what its start becomes. -/
theorem update_of_not_mem {entries : List (α × β)} {key : α} (h : key ∉ entries.map (·.1))
    (start : β) (f : β → β) : update key start f entries = entries ++ [(key, f start)] := by
  induction entries with
  | nil => rfl
  | cons e rest ih =>
    simp only [List.map_cons, List.mem_cons, not_or] at h
    rw [update, if_neg (Ne.symm h.1), ih h.2, List.cons_append]

/-- A key at the end is new or occurs before. -/
theorem eraseDups_concat (keys : List α) (key : α) :
    (keys ++ [key]).eraseDups = if key ∈ keys then keys.eraseDups else keys.eraseDups ++ [key] := by
  rw [List.eraseDups_append]
  by_cases h : key ∈ keys <;> simp [List.removeAll, List.eraseDups_cons, h]

/-- No key comes up twice when duplicates are left out. -/
theorem nodup_eraseDups (keys : List α) : keys.eraseDups.Nodup := by
  induction keys using List.reverseRecOn with
  | nil => simp
  | append_singleton keys key ih =>
    rw [eraseDups_concat]
    split
    · exact ih
    · next h => exact ih.append (List.nodup_singleton key) (by simpa using h)

/-- Distinct keys stand in the order in which they occur first. -/
theorem pairwise_idxOf_eraseDups (keys : List α) :
    keys.eraseDups.Pairwise fun k k' => keys.idxOf k < keys.idxOf k' := by
  induction keys using List.reverseRecOn with
  | nil => simp
  | append_singleton keys key ih =>
    have hbefore {k : α} (hk : k ∈ keys.eraseDups) : (keys ++ [key]).idxOf k = keys.idxOf k :=
      List.idxOf_append_of_mem (List.mem_eraseDups.1 hk)
    have hkept : keys.eraseDups.Pairwise fun k k' =>
        (keys ++ [key]).idxOf k < (keys ++ [key]).idxOf k' :=
      ih.imp_of_mem fun hk hk' hlt => by rwa [hbefore hk, hbefore hk']
    rw [eraseDups_concat]
    split
    · exact hkept
    · next hnew =>
      refine List.pairwise_append.2 ⟨hkept, List.pairwise_singleton _ _, fun k hk k' hk' => ?_⟩
      obtain rfl := List.mem_singleton.1 hk'
      rw [hbefore hk, List.idxOf_append_of_notMem hnew]
      exact Nat.lt_add_right _ (List.idxOf_lt_length_of_mem (List.mem_eraseDups.1 hk))

/-- The items of one key after those of another are all items, if every item has one of the keys and no key
occurs twice. -/
theorem flatMap_filter_perm (key : γ → α) {keys : List α} {items : List γ} (hnodup : keys.Nodup)
    (hmem : ∀ x ∈ items, key x ∈ keys) :
    (keys.flatMap fun k => items.filter (key · = k)).Perm items := by
  induction keys generalizing items with
  | nil =>
    obtain rfl : items = [] := List.eq_nil_iff_forall_not_mem.2 fun x hx => by cases hmem x hx
    exact .nil
  | cons k rest ih =>
    obtain ⟨hk, hrest⟩ := List.nodup_cons.1 hnodup
    -- The items of the other keys are found among those that do not have the first one.
    have hothers : rest.flatMap (fun k' => items.filter (key · = k')) =
        rest.flatMap fun k' => (items.filter fun x => !decide (key x = k)).filter (key · = k') := by
      refine List.flatMap_congr fun k' hk' => ?_
      have hne : k' ≠ k := fun h => hk (h ▸ hk')
      rw [List.filter_filter]
      refine List.filter_congr fun x _ => ?_
      by_cases h : key x = k' <;> simp [h, hne]
    have hleft : ∀ x ∈ items.filter fun x => !decide (key x = k), key x ∈ rest := fun x hx => by
      obtain ⟨hx, hne⟩ := List.mem_filter.1 hx
      exact (List.mem_cons.1 (hmem x hx)).resolve_left (by simpa using hne)
    rw [List.flatMap_cons, hothers]
    exact ((ih hrest hleft).append_left _).trans (List.filter_append_perm _ items)

/-- **What updates make**: a key for each key of the items, in the order of first occurrence, with
what the items of the key make of the starting value. -/
theorem foldl_update (key : γ → α) (start : β) (f : γ → β → β) (items : List γ) :
    items.foldl (fun acc x => update (key x) start (f x) acc) [] =
      (items.map key).eraseDups.map fun k =>
        (k, (items.filter (key · = k)).foldl (fun acc x => f x acc) start) := by
  induction items using List.reverseRecOn with
  | nil => rfl
  | append_singleton items x ih =>
    rw [List.foldl_append, List.foldl_cons, List.foldl_nil, ih, List.map_append, List.map_singleton,
      eraseDups_concat]
    split
    · next h =>
      rw [update_map_of_mem (nodup_eraseDups _) (List.mem_eraseDups.2 h)]
      refine List.map_congr_left fun k _ => ?_
      by_cases hk : k = key x <;> simp [hk, Ne.symm]
    · next h =>
      have hnone : items.filter (key · = key x) = [] :=
        List.filter_eq_nil_iff.2 fun y hy => by
          have hy : key y ∈ items.map key := List.mem_map_of_mem hy
          rw [decide_eq_true_iff]
          rintro heq
          exact h (heq ▸ hy)
      rw [update_of_not_mem (by simpa using h), List.map_append, List.map_singleton,
        List.filter_append, hnone]
      congr 1
      · refine List.map_congr_left fun k hk => ?_
        have hne : key x ≠ k := by
          rintro rfl
          exact h (List.mem_eraseDups.1 hk)
        simp [hne]
      · simp

end RecordRules.Assoc
