import Mathlib.Algebra.BigOperators.Group.List.Basic
import Mathlib.Data.Nat.SuccPred
import RecordRules.Proofs.Assoc
import RecordRules.Proofs.Number.Nearest
import RecordRules.Proofs.Traversal
import RecordRules.Report

/-!
# The figures of a report

The rows of a report are the failures of the records one after the other (`Report.collectRows_eq`).
From them alone come the counts by field and by rule (`Report.tallies_tally`) and the number of records
that fail (`Report.length_eraseDups_indices`), so the figures of a report agree with its rows and with
each other (`Report.ofResults_accounts`).
-/

namespace RecordRules.Report

variable {c : Catalog}

/-! ## Rows -/

/-- The failures of records in order, each with the index of its record; the first record has the
given index. -/
def indexed (index : Nat) (results : List Result) : List (Nat × Failure) :=
  (results.zipIdx index).flatMap fun (r, i) => r.failures.map (i, ·)

/-- The failures of the first result come first, under its index. -/
theorem indexed_cons (index : Nat) (r : Result) (rest : List Result) :
    indexed index (r :: rest) = r.failures.map (index, ·) ++ indexed (index + 1) rest := rfl

/-- A row shows a failure with the index of its record and its message. -/
structure Shows (c : Catalog) (item : Nat × Failure) (row : ReportRow) : Prop where
  index : row.index = item.1
  failure : row.failure = item.2
  message : c.render item.2 = .ok row.message

/-- Each row stands under the index of its result. -/
theorem map_index_of_shows {items : List (Nat × Failure)} {rows : List ReportRow}
    (h : List.Forall₂ (Shows c) items rows) : items.map (·.1) = rows.map (·.index) := by
  induction h with
  | nil => rfl
  | cons hrow _ ih => rw [List.map_cons, List.map_cons, ih, hrow.index]

/-- The row of a failure. -/
def rowOf (c : Catalog) (item : Nat × Failure) : Except RenderFault ReportRow := do
  return ⟨item.1, item.2, ← c.render item.2⟩

/-- The row of a failure is what it shows. -/
theorem rowOf_eq_ok_iff {item : Nat × Failure} {row : ReportRow} :
    rowOf c item = .ok row ↔ Shows c item row := by
  rw [rowOf, bind_eq_ok_iff]
  constructor
  · rintro ⟨message, hmessage, h⟩
    cases h
    exact ⟨rfl, rfl, hmessage⟩
  · rintro ⟨hindex, hfailure, hmessage⟩
    exact ⟨row.message, hmessage, by rw [← hindex, ← hfailure]; rfl⟩

/-- **The rows of a batch** are those of its failures in order. -/
theorem collectRows_eq (c : Catalog) (index : Nat) (results : List Result) :
    collectRows c index results = (indexed index results).mapM (rowOf c) := by
  induction results generalizing index with
  | nil => rfl
  | cons r rest ih =>
    rw [collectRows, indexed_cons, List.mapM_append, List.mapM_map, ih]
    rfl

/-- A batch whose failures have messages has a report, with a row for each failure. -/
theorem exists_ofResults (source generatedAt : String) {results : List Result}
    (h : ∀ r ∈ results, ∀ f ∈ r.failures, ∃ message, c.render f = .ok message) :
    ∃ rows, List.Forall₂ (Shows c) (indexed 0 results) rows ∧
      ofResults c source generatedAt results =
        .ok ⟨source, results.length, results.countP (!·.isValid), rows, generatedAt⟩ := by
  have hrow : ∀ item ∈ indexed 0 results, ∃ row, rowOf c item = .ok row := by
    intro item hitem
    obtain ⟨⟨r, i⟩, hr, hitem⟩ := List.mem_flatMap.1 hitem
    obtain ⟨f, hf, rfl⟩ := List.mem_map.1 hitem
    obtain ⟨message, hmessage⟩ := h r (List.fst_mem_of_mem_zipIdx hr) f hf
    exact ⟨⟨i, f, message⟩, rowOf_eq_ok_iff.2 ⟨rfl, rfl, hmessage⟩⟩
  obtain ⟨rows, hrows⟩ := exists_mapM_eq_ok hrow
  refine ⟨rows, (mapM_eq_ok_iff.1 hrows).imp fun _ _ => rowOf_eq_ok_iff.1, ?_⟩
  rw [ofResults, collectRows_eq, hrows]
  rfl

/-! ## Counts -/

/-- Counts say of the names of a list, in the order of first occurrence, how often each occurs. -/
structure Tallies (names : List String) (counts : List (String × Nat)) : Prop where
  names_eq : counts.map (·.1) = names.eraseDups
  count : ∀ p ∈ counts, p.2 = names.count p.1
  pos : ∀ p ∈ counts, 0 < p.2

/-- A tally counts each name once, in the order in which the names come up. -/
theorem tally_eq (names : List String) :
    tally names = names.eraseDups.map fun name => (name, names.count name) := by
  rw [tally, Assoc.foldl_update (fun name => name) 0 (fun _ => Nat.succ) names, List.map_id']
  refine List.map_congr_left fun name _ => ?_
  rw [List.foldl_const, Nat.succ_iterate, Nat.zero_add, List.count_eq_length_filter]
  rfl

/-- **The counts of names.** -/
theorem tallies_tally (names : List String) : Tallies names (tally names) := by
  rw [tally_eq]
  have hcount : ∀ p ∈ names.eraseDups.map fun name => (name, names.count name),
      p.1 ∈ names ∧ p.2 = names.count p.1 := by
    intro p hp
    obtain ⟨name, hname, rfl⟩ := List.mem_map.1 hp
    exact ⟨List.mem_eraseDups.1 hname, rfl⟩
  refine ⟨?_, fun p hp => (hcount p hp).2, fun p hp => ?_⟩
  · rw [List.map_map]
    exact List.map_id _
  · rw [(hcount p hp).2]
    exact List.count_pos_iff.2 (hcount p hp).1

/-- The counts sum up to the number of names. -/
theorem sum_tally (names : List String) : ((tally names).map (·.2)).sum = names.length := by
  have hperm : names.eraseDups.Perm names.dedup :=
    (List.perm_ext_iff_of_nodup (Assoc.nodup_eraseDups names) names.nodup_dedup).2 fun name => by
      rw [List.mem_eraseDups, List.mem_dedup]
  rw [tally_eq, List.map_map, ← List.sum_map_count_dedup_eq_length names]
  exact (hperm.map names.count).sum_eq

/-! ## Records that fail -/

/-- No index is less than the first one. -/
theorem le_of_mem_indexed {index : Nat} {results : List Result} {item : Nat × Failure}
    (h : item ∈ indexed index results) : index ≤ item.1 := by
  obtain ⟨⟨r, i⟩, hr, hitem⟩ := List.mem_flatMap.1 h
  obtain ⟨f, -, rfl⟩ := List.mem_map.1 hitem
  exact List.le_snd_of_mem_zipIdx hr

/-- The failures of one record stand together, so its index is new when it is reached. -/
theorem eraseDups_indexed_cons (index : Nat) (r : Result) (rest : List Result) :
    ((indexed index (r :: rest)).map (·.1)).eraseDups =
      (if r.isValid then [] else [index]) ++ ((indexed (index + 1) rest).map (·.1)).eraseDups := by
  have hhead : ((r.failures.map (index, ·)).map (·.1)).eraseDups =
      if r.isValid then [] else [index] := by
    rw [Result.isValid]
    induction r.failures with
    | nil => rfl
    | cons f rest ih =>
      simp only [List.map_cons, List.eraseDups_cons]
      simp
  have hrest : ((indexed (index + 1) rest).map (·.1)).removeAll
      ((r.failures.map (index, ·)).map (·.1)) = (indexed (index + 1) rest).map (·.1) := by
    refine List.filter_eq_self.2 fun i hi => ?_
    obtain ⟨item, hitem, rfl⟩ := List.mem_map.1 hi
    have := le_of_mem_indexed hitem
    simp
    omega
  rw [indexed_cons, List.map_append, List.eraseDups_append, hhead, hrest]

/-- **The records that fail** are as many as the different indices of failures. -/
theorem length_eraseDups_indices (index : Nat) (results : List Result) :
    ((indexed index results).map (·.1)).eraseDups.length = results.countP (!·.isValid) := by
  induction results generalizing index with
  | nil => rfl
  | cons r rest ih =>
    rw [eraseDups_indexed_cons, List.length_append, ih, List.countP_cons]
    cases r.isValid <;> simp [Nat.add_comm]

/-- There are no failures when every result is valid. -/
theorem indexed_eq_nil_iff (index : Nat) {results : List Result} :
    indexed index results = [] ↔ results.countP (!·.isValid) = 0 := by
  rw [← length_eraseDups_indices index, List.length_eq_zero_iff]
  cases indexed index results with
  | nil => simp
  | cons item rest => simp [List.eraseDups_cons]

/-! ## Batches in order -/

section
variable {source generatedAt : String} {results : List Result} {report : Report}

/-- A report says that all is valid when all results are. -/
theorem allValid_iff_of_ofResults (h : ofResults c source generatedAt results = .ok report) :
    report.allValid = true ↔ ∀ r ∈ results, r.isValid = true := by
  obtain ⟨rows, -, h⟩ := bind_eq_ok_iff.1 h
  cases h
  simp [allValid, List.countP_eq_zero]

/-- A report on records that are in order has no rows. -/
theorem rows_eq_nil_of_ofResults (h : ofResults c source generatedAt results = .ok report)
    (hvalid : report.allValid = true) : report.rows = [] := by
  obtain ⟨rows, hrows, h⟩ := bind_eq_ok_iff.1 h
  cases h
  have hnone : indexed 0 results = [] := (indexed_eq_nil_iff 0).2 (by simpa [allValid] using hvalid)
  rw [collectRows_eq, hnone] at hrows
  cases hrows
  rfl

/-- Only reports on failures cannot be made. -/
theorem exists_not_isValid_of_raises (h : Raises (ofResults c source generatedAt results)) :
    ∃ r ∈ results, r.isValid = false := by
  by_contra hvalid
  have hrender : ∀ r ∈ results, ∀ f ∈ r.failures, ∃ message, c.render f = .ok message := by
    intro r hr f hf
    have hfailures : r.failures = [] := by simpa [Result.isValid] using fun h => hvalid ⟨r, hr, h⟩
    rw [hfailures] at hf
    cases hf
  obtain ⟨rows, -, hreport⟩ := exists_ofResults source generatedAt hrender
  rw [hreport] at h
  exact raises_ok _ h

end

/-! ## Figures -/

/-- The figures of a report agree with its rows, and the rows with the results of a batch. -/
structure Accounts (c : Catalog) (results : List Result) (report : Report) : Prop where
  rows : List.Forall₂ (Shows c) (indexed 0 results) report.rows
  total : report.total = results.length
  failureCount : report.failureCount = report.rows.length
  byField : Tallies (report.rows.map (·.failure.field)) report.byField
  byRule : Tallies (report.rows.map (·.failure.rule)) report.byRule
  sum_byField : (report.byField.map (·.2)).sum = report.failureCount
  sum_byRule : (report.byRule.map (·.2)).sum = report.failureCount
  invalid : report.invalid = (report.rows.map (·.index)).eraseDups.length
  passRate : report.passRate.Nearest
    (if report.total = 0 then 1 else ((report.total : ℚ) - report.invalid) / report.total)
  allValid : report.allValid = true ↔ report.rows = []

/-- The share of the records in order is the double precision number nearest to their quotient. -/
theorem passRate_nearest {report : Report} (h : report.invalid ≤ report.total) :
    report.passRate.Nearest
      (if report.total = 0 then 1 else ((report.total : ℚ) - report.invalid) / report.total) := by
  rw [passRate]
  split
  · have hone := Binary64.ofRatio_nearest one_pos (Binary64.ofRatio_ne_infinite le_rfl one_pos)
    rwa [Nat.cast_one, div_one] at hone
  · next htotal =>
    have hpos := Nat.pos_of_ne_zero htotal
    rw [← Nat.cast_sub h]
    exact Binary64.ofRatio_nearest hpos (Binary64.ofRatio_ne_infinite (Nat.sub_le _ _) hpos)

/-- **The figures of a report.** A batch whose failures have messages has a report, and its figures
agree with its rows. -/
theorem ofResults_accounts (source generatedAt : String) {results : List Result}
    (h : ∀ r ∈ results, ∀ f ∈ r.failures, ∃ message, c.render f = .ok message) :
    ∃ report, ofResults c source generatedAt results = .ok report ∧ Accounts c results report := by
  obtain ⟨rows, hshows, hreport⟩ := exists_ofResults source generatedAt h
  have hindices := map_index_of_shows hshows
  exact ⟨_, hreport, {
    rows := hshows
    total := rfl
    failureCount := rfl
    byField := tallies_tally _
    byRule := tallies_tally _
    sum_byField := (sum_tally _).trans (List.length_map _)
    sum_byRule := (sum_tally _).trans (List.length_map _)
    invalid := by rw [← hindices, length_eraseDups_indices]
    passRate := passRate_nearest List.countP_le_length
    allValid := by
      rw [Report.allValid, beq_iff_eq, ← indexed_eq_nil_iff 0, ← List.map_eq_nil_iff,
        hindices, List.map_eq_nil_iff] }⟩

/-- A batch in which every other record is in order, and a field fails more than once. -/
theorem ofResults_accounts_sparse :
    let c := Catalog.ofTemplates [("required", "Fill in \x7bfield\x7d")]
    let missing : Failure := ⟨"name", .null, "required", .null⟩
    let short : Failure := ⟨"name", .text "x", "min_len", .text "2"⟩
    let results := [Result.valid, ⟨[missing, short]⟩, Result.valid, ⟨[missing]⟩]
    (∀ r ∈ results, ∀ f ∈ r.failures, ∃ message, c.render f = .ok message) ∧
      ∃ report, ofResults c "" "" results = .ok report ∧ Accounts c results report ∧
        report.byField = [("name", 3)] ∧ report.byRule = [("required", 2), ("min_len", 1)] ∧
        report.invalid = 2 ∧ report.passRate = .finite false (2 ^ 52) (-53) := by
  intro c missing short results
  have hmissing : ∃ message, c.render missing = .ok message := ⟨_, rfl⟩
  have hshort : ∃ message, c.render short = .ok message := ⟨_, rfl⟩
  have hrender : ∀ r ∈ results, ∀ f ∈ r.failures, ∃ message, c.render f = .ok message := by
    simp [results, Result.valid, hmissing, hshort]
  obtain ⟨report, hreport, haccounts⟩ := ofResults_accounts "" "" hrender
  refine ⟨hrender, report, hreport, haccounts, ?_⟩
  cases hreport
  exact ⟨by decide, by decide, rfl, by decide +kernel⟩

end RecordRules.Report
