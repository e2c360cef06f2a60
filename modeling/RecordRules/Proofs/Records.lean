import RecordRules.File.Load
import RecordRules.Frame
import RecordRules.Proofs.Assoc
import RecordRules.Proofs.Json.WellFormed

/-!
# Records are well-formed

The records of a file are well-formed, whatever the file holds (`Record.wellFormed_load`), if those are that
the reader of tables makes, as the library's own reader does (`Csv.wellFormed_records`). So are the rows of a
frame of well-formed cells (`Frame.wellFormed_records`).
-/

namespace RecordRules

variable {entries : List (Value × Value)} {items : List Value} {record : Record} {records : List Record}

/-! ## Files -/

/-- The record in a well-formed object is well-formed. -/
theorem Value.WellFormed.namedEntries (h : (Value.dict entries).WellFormed) :
    Record.WellFormed (namedEntries entries) := by
  intro e he
  obtain ⟨⟨k, v⟩, hentry, heq⟩ := List.mem_filterMap.1 he
  cases k with
  | text name =>
    obtain rfl := Option.some.inj heq
    exact ((Value.wellFormed_dict_iff.1 h).1 _ hentry).2
  | _ => cases heq

/-- The record that a well-formed value stands for is well-formed. -/
theorem Value.WellFormed.toRecord? {v : Value} (h : v.WellFormed) (hrecord : v.toRecord? = some record) :
    record.WellFormed := by
  cases v with
  | dict entries =>
    obtain rfl := Option.some.inj hrecord
    exact h.namedEntries
  | _ => cases hrecord

/-- The records that well-formed values stand for are well-formed. -/
theorem Value.wellFormed_mapM_toRecord? (h : ∀ v ∈ items, v.WellFormed)
    (hrecords : items.mapM Value.toRecord? = some records) : ∀ record ∈ records, record.WellFormed := by
  induction items generalizing records with
  | nil =>
    obtain rfl := Option.some.inj hrecords
    exact List.forall_mem_nil _
  | cons v items ih =>
    obtain ⟨hv, hitems⟩ := List.forall_mem_cons.1 h
    rw [List.mapM_cons] at hrecords
    obtain ⟨record, hrecord, hrecords⟩ := Option.bind_eq_some_iff.1 hrecords
    obtain ⟨others, hothers, hrecords⟩ := Option.bind_eq_some_iff.1 hrecords
    obtain rfl := Option.some.inj hrecords
    exact List.forall_mem_cons.2 ⟨hv.toRecord? hrecord, ih hitems hothers⟩

/-- The records in the JSON text of a file are well-formed. -/
theorem Record.wellFormed_ofJsonFile {path : Path} {content : String} {depthLimit : Nat}
    (h : ofJsonFile path content depthLimit = .ok records) : ∀ record ∈ records, record.WellFormed := by
  unfold ofJsonFile at h
  dsimp only at h
  split at h
  · cases h
  · cases h
  · next entries hread =>
    cases h
    exact List.forall_mem_singleton.2 (Json.wellFormed_read hread).namedEntries
  · next items hread =>
    split at h
    · next hrecords =>
      cases h
      have hitems := Value.wellFormed_list_iff.1 (Json.wellFormed_read hread)
      exact Value.wellFormed_mapM_toRecord? hitems hrecords
    · cases h
  · cases h

/-- Rows of comma-separated texts hold texts only. -/
theorem Csv.wellFormed_records {text : List Char} (h : Csv.records text = .ok records) :
    ∀ record ∈ records, record.WellFormed := by
  rw [Csv.records] at h
  obtain ⟨rows, -, h⟩ := bind_eq_ok_iff.1 h
  split at h
  · cases h
  · next header body =>
    cases h
    intro record hrecord e he
    obtain ⟨row, -, rfl⟩ := List.mem_map.1 hrecord
    obtain ⟨cell, -, hcell⟩ := List.mem_map.1 (List.of_mem_zip he).2
    exact hcell ▸ .atom trivial

/-- **Records that are loaded are well-formed**, if those from tables are. -/
theorem Record.wellFormed_load {path : Path} {entry : Entry String} {depthLimit : Nat}
    {readTable : List Char → Except Csv.Fault (List Record)}
    (htable : ∀ text records, readTable text = .ok records → ∀ record ∈ records, record.WellFormed)
    (h : Record.load path entry readTable depthLimit = .ok records) :
    ∀ record ∈ records, record.WellFormed := by
  cases entry with
  | absent => cases h
  | folder =>
    rw [Record.load] at h
    split at h <;> cases h
  | file content =>
    rw [Record.load] at h
    split at h
    · exact htable _ _ (mapError_eq_ok_iff.1 h)
    · split at h
      · exact Record.wellFormed_ofJsonFile h
      · cases h

/-! ## Frames -/

/-- The cells of a column stay well-formed when its numbers become double precision numbers. -/
theorem Frame.wellFormed_columnCells {cells : List Value} (h : ∀ v ∈ cells, v.WellFormed) :
    ∀ v ∈ columnCells cells, v.WellFormed := by
  have hfloat {v : Value} (hv : v.WellFormed) : (toFloat v).WellFormed := by
    cases v with
    | int n => exact .atom (Binary64.isProper_ofInt n)
    | null => exact .atom trivial
    | _ => exact hv
  rw [columnCells]
  split
  · exact h
  · split
    · exact List.forall_mem_map.2 fun v hv => hfloat (h v hv)
    · exact h

/-- The cells of a frame are well-formed if those are that it was made from. -/
theorem Frame.wellFormed_ofColumns {asGiven : Bool} {columns : List (String × List Value)} {f : Frame}
    (hcells : ∀ column ∈ columns, ∀ v ∈ column.2, v.WellFormed) (h : ofColumns asGiven columns = .ok f) :
    ∀ column ∈ f.columns, ∀ v ∈ column.2, v.WellFormed := by
  have hcolumns := Assoc.forall_mem_ofList (P := fun cells : List Value => ∀ v ∈ cells, v.WellFormed) hcells
  unfold ofColumns at h
  dsimp only at h
  split at h
  · cases h
  · cases h
    dsimp only
    split
    · exact hcolumns
    · exact List.forall_mem_map.2 fun column hcolumn => wellFormed_columnCells (hcolumns column hcolumn)

/-- **The rows of a frame are well-formed** if the cells are that it was made from. -/
theorem Frame.wellFormed_records {asGiven : Bool} {columns : List (String × List Value)} {f : Frame}
    (hcells : ∀ column ∈ columns, ∀ v ∈ column.2, v.WellFormed) (h : ofColumns asGiven columns = .ok f) :
    ∀ record ∈ f.records, record.WellFormed := by
  intro record hrecord e he
  obtain ⟨row, -, rfl⟩ := List.mem_map.1 hrecord
  obtain ⟨⟨name, cells⟩, hcolumn, rfl⟩ := List.mem_map.1 he
  dsimp only
  split
  · exact .atom trivial
  · rw [List.getD_eq_getElem?_getD]
    cases hcell : cells[row]? with
    | none => exact .atom trivial
    | some v => exact wellFormed_ofColumns hcells h _ hcolumn v (List.mem_of_getElem? hcell)

end RecordRules
