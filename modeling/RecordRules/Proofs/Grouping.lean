import RecordRules.Proofs.Assoc
import RecordRules.Result

/-!
# The failures of a field

Grouping puts every failure behind the earlier ones of its field, so the groups stand in the order of
the first failures of the fields and the group of a field holds its failures in their order
(`Result.byField_eq`). A field without failures has no group (`Result.lookup_byField`), and the fields
with groups are those that are listed as failing (`Result.fields_eq`). So grouping loses no failure and
repeats none (`Result.groups_byField`).
-/

namespace RecordRules.Result

/-- **The failing fields**, each once, in the order of their first failures. -/
theorem fields_eq (r : Result) : r.fields = (r.failures.map (·.field)).eraseDups := by
  rw [fields]
  induction r.failures using List.reverseRecOn with
  | nil => rfl
  | append_singleton failures f ih =>
    rw [List.foldl_append, List.foldl_cons, List.foldl_nil, ih, List.map_append,
      List.map_singleton, Assoc.eraseDups_concat]
    simp only [List.mem_eraseDups]

/-- **The groups of failures** by field. -/
theorem byField_eq (r : Result) :
    r.byField = (r.failures.map (·.field)).eraseDups.map fun field =>
      (field, r.failures.filter (·.field = field)) := by
  have hgroup (failures : List Failure) :
      failures.foldl (fun acc f => acc ++ [f]) [] = failures := by
    rw [List.foldl_append_eq_append, ← List.flatMap_def, List.flatMap_singleton']
    rfl
  rw [byField, Assoc.foldl_update (·.field) [] (fun f acc => acc ++ [f]) r.failures]
  exact List.map_congr_left fun field _ => by rw [hgroup]

/-- **The group of a field** holds the failures of the field in their order. -/
theorem lookup_byField (r : Result) (field : String) :
    r.byField.lookup field =
      if r.failures.filter (·.field = field) = [] then none
      else some (r.failures.filter (·.field = field)) := by
  have hfield : r.failures.filter (·.field = field) = [] ↔ field ∉ r.failures.map (·.field) := by
    simp [List.filter_eq_nil_iff]
  rw [byField_eq, Assoc.lookup_map]
  simp only [hfield, List.mem_eraseDups, ite_not]

/-- What a list of failing fields and groups of failures by field are to be for a list of failures. -/
structure Groups (failures : List Failure) (fields : List String)
    (groups : List (String × List Failure)) : Prop where
  /-- No field is listed twice. -/
  nodup : fields.Nodup
  /-- The fields are those with a failure. -/
  mem_iff : ∀ field, field ∈ fields ↔ ∃ f ∈ failures, f.field = field
  /-- They stand in the order of their first failures. -/
  ordered : fields.Pairwise fun a b => failures.findIdx (·.field = a) < failures.findIdx (·.field = b)
  /-- There is a group for each of them, in this order. -/
  keys : groups.map (·.1) = fields
  /-- A group holds the failures of its field, in their order. -/
  group_eq : ∀ entry ∈ groups, entry.2 = failures.filter (·.field = entry.1)
  /-- No group is empty. -/
  ne_nil : ∀ entry ∈ groups, entry.2 ≠ []
  /-- One group after the other, these are the failures, each as often as it occurs. -/
  perm : (groups.flatMap (·.2)).Perm failures

/-- The first failure of a field stands where the field occurs first. -/
theorem findIdx_field (failures : List Failure) (field : String) :
    failures.findIdx (·.field = field) = (failures.map (·.field)).idxOf field := by
  rw [List.idxOf, List.findIdx_map]
  rfl

/-- **Grouping loses nothing**: every failure stands in the group of its field and nowhere else. -/
theorem groups_byField (r : Result) : Groups r.failures r.fields r.byField where
  nodup := fields_eq r ▸ Assoc.nodup_eraseDups _
  mem_iff field := by rw [fields_eq, List.mem_eraseDups, List.mem_map]
  ordered := by
    simp only [findIdx_field, fields_eq]
    exact Assoc.pairwise_idxOf_eraseDups _
  keys := by
    rw [byField_eq, fields_eq, List.map_map]
    exact List.map_id _
  group_eq := by
    rw [byField_eq, List.forall_mem_map]
    exact fun _ _ => rfl
  ne_nil := by
    rw [byField_eq, List.forall_mem_map]
    intro field hfield
    obtain ⟨f, hf, rfl⟩ := List.mem_map.1 (List.mem_eraseDups.1 hfield)
    exact List.ne_nil_of_mem (List.mem_filter.2 ⟨hf, decide_eq_true rfl⟩)
  perm := by
    rw [byField_eq, List.flatMap_map]
    exact Assoc.flatMap_filter_perm Failure.field (Assoc.nodup_eraseDups _) fun f hf =>
      List.mem_eraseDups.2 (List.mem_map_of_mem hf)

end RecordRules.Result
