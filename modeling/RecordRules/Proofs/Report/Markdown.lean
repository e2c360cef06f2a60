import Mathlib.Data.List.DropRight
import RecordRules.Message.English
import RecordRules.Proofs.Declaration.Segments
import RecordRules.Proofs.Number.Written
import RecordRules.Proofs.Report.Accounting
import RecordRules.Proofs.Text.Lines
import RecordRules.Report.Markdown

/-!
# Reading a report in Markdown

The document ends with the table of failures: its body is the run of lines at the end that start like
the row of a table (`Report.bodyLines`), and a row is split at the pipes that no backslash stands before
(`Report.readRow`). The texts of a row are written as they are. So the rows are read back if no field,
rule or message of a failure holds a pipe or the end of a line, and only then
(`Report.readsBack_markdown_iff`).
-/

namespace RecordRules.Report

open Declaration (segments unescape escape)

/-! ## Reading -/

/-- A text without the space at each of its ends. -/
def unpad (s : List Char) : List Char :=
  let s := if s.head? = some ' ' then s.tail else s
  if s.getLast? = some ' ' then s.dropLast else s

/-- The text of a cell. A backslash before a pipe is left out. -/
def readCell (cell : List Char) : String := .ofList (unescape (unpad cell))

/-- The texts of a row of a table: it is split at the pipes that no backslash stands before. -/
def readRow (line : List Char) : List String := (segments false line).tail.dropLast.map readCell

/-- The line starts like the row of a table. -/
def isRow (line : List Char) : Bool := ['|', ' '].isPrefixOf line

/-- The body of the table at the end of a document, behind which an empty line follows. -/
def bodyLines (document : String) : List (List Char) :=
  (Text.lines document.toList).dropLast.rtakeWhile isRow

/-- What the row of a failure says: its number, the index of the record, the field, the rule and the
message. -/
def cellsOf (row : ReportRow) (number : Nat) : List String :=
  [number.repr, row.index.repr, row.failure.field, row.failure.rule, row.message]

/-- What the rows of failures say, numbered from one. -/
def tableOf (rows : List ReportRow) : List (List String) :=
  (rows.zipIdx 1).map fun (row, number) => cellsOf row number

/-- The failures of a report are read back from a document: its last table has a line for each, and the
cells of the line are those of the failure. -/
structure ReadsBack (r : Report) (document : String) : Prop where
  length : (bodyLines document).length = r.failureCount
  cells : (bodyLines document).map readRow = tableOf r.rows

/-- The text holds no pipe and stays on one line. -/
def IsPlain (text : String) : Prop := '|' ∉ text.toList ∧ Text.IsOneLine text.toList

instance : DecidablePred IsPlain := fun _ => inferInstanceAs (Decidable (_ ∧ _))

/-! ## A row -/

variable {c : Char} {t line : List Char} {texts : List String}

/-- A text with the spaces that stand around it in a row. -/
def padded (t : List Char) : List Char := ' ' :: (t ++ [' '])

/-- A row is a bar, and then each cell with a bar after it. -/
theorem toList_tableRow (hne : texts ≠ []) :
    (tableRow texts).toList = '|' :: texts.flatMap fun text => padded text.toList ++ ['|'] := by
  have hbody : ' ' :: (" | ".intercalate texts).toList ++ " |".toList =
      texts.flatMap fun text => padded text.toList ++ ['|'] := by
    induction texts with
    | nil => exact absurd rfl hne
    | cons text rest ih =>
      cases rest with
      | nil => simp [padded]
      | cons next rest =>
        rw [List.flatMap_cons, ← ih (by simp), String.intercalate_cons_cons]
        simp [padded]
  rw [← hbody, tableRow]
  simp

/-- A pipe behind a padded text separates. -/
theorem endsEscaped_padded (t : List Char) : Declaration.endsEscaped false (padded t) = false := by
  simp [Declaration.endsEscaped, padded]

/-- The cells of a row are the segments of its padded texts. -/
theorem readRow_tableRow (hne : texts ≠ []) : readRow (tableRow texts).toList =
    (texts.flatMap fun text => segments false (padded text.toList)).map readCell := by
  have hcells (texts : List String) :
      segments false (texts.flatMap fun text => padded text.toList ++ ['|']) =
        (texts.flatMap fun text => segments false (padded text.toList)) ++ [[]] := by
    induction texts with
    | nil => rfl
    | cons text rest ih =>
      rw [List.flatMap_cons, List.append_assoc, List.singleton_append,
        Declaration.segments_append_separator (endsEscaped_padded _), ih, List.flatMap_cons,
        List.append_assoc]
  rw [readRow, toList_tableRow hne, Declaration.segments_separator, hcells, List.tail_cons,
    List.dropLast_concat]

/-- The padding of a cell is not read. -/
theorem readCell_padded (t : List Char) : readCell (padded t) = .ofList (unescape t) := by
  simp [readCell, unpad, padded]

/-- **A row is read back** exactly when none of its texts holds a pipe. -/
theorem readRow_tableRow_eq_iff (hne : texts ≠ []) :
    readRow (tableRow texts).toList = texts ↔ ∀ text ∈ texts, '|' ∉ text.toList := by
  have hcells : texts.flatMap (fun text => segments false (padded text.toList)) =
      (texts.map fun text => padded text.toList).flatMap (segments false) := by
    rw [List.flatMap_map]
  have hread (h : ∀ text ∈ texts, segments false (padded text.toList) = [padded text.toList]) :
      readRow (tableRow texts).toList = texts.map fun text => readCell (padded text.toList) := by
    rw [readRow_tableRow hne, List.flatMap_congr h, ← List.map_eq_flatMap, List.map_map]
    rfl
  constructor
  · intro h
    have hmap : (texts.map fun text => padded text.toList).length = texts.length :=
      List.length_map _
    have hlength := congrArg List.length h
    rw [readRow_tableRow hne, List.length_map, hcells, ← hmap] at hlength
    have hsegments : ∀ text ∈ texts, segments false (padded text.toList) = [padded text.toList] := by
      intro text htext
      exact Declaration.segments_eq_singleton_of_length
        (Declaration.length_segments_of_length_flatMap hlength _ (List.mem_map_of_mem htext))
    rw [hread hsegments] at h
    intro text htext
    have hcell := List.map_inj_left.1 (h.trans (List.map_id texts).symm) text htext
    have hunescape : unescape text.toList = text.toList := by
      rw [readCell_padded] at hcell
      exact String.ofList_injective (hcell.trans String.ofList_toList.symm)
    have htail := (Declaration.segments_cons_eq_singleton_iff.1 (hsegments text htext)).2
    exact Declaration.not_mem_of_unescape_eq (Declaration.segments_of_append htail) hunescape
  · intro h
    have hsegments : ∀ text ∈ texts, segments false (padded text.toList) = [padded text.toList] := by
      intro text htext
      have hpadded : '|' ∉ padded text.toList := by simpa [padded] using h text htext
      rw [← Declaration.escape_of_not_mem hpadded, Declaration.segments_escape]
    rw [hread hsegments]
    refine (List.map_congr_left fun text htext => ?_).trans (List.map_id texts)
    rw [readCell_padded, Declaration.unescape_of_not_mem (h text htext), String.ofList_toList]
    rfl

/-- Taking off padding adds no characters. -/
theorem mem_of_mem_unpad (h : c ∈ unpad t) : c ∈ t := by
  simp only [unpad] at h
  split at h
  · split at h
    · exact List.mem_of_mem_tail (List.mem_of_mem_dropLast h)
    · exact List.mem_of_mem_tail h
  · split at h
    · exact List.mem_of_mem_dropLast h
    · exact h

/-- The texts of a row are made of characters of its line. -/
theorem subset_of_mem_readRow {text : String} (htext : text ∈ readRow line) :
    text.toList ⊆ line := by
  intro c hc
  obtain ⟨cell, hcell, rfl⟩ := List.mem_map.1 htext
  rw [readCell, String.toList_ofList] at hc
  have hcell := List.mem_of_mem_tail (List.mem_of_mem_dropLast hcell)
  exact Declaration.mem_of_mem_segments hcell (mem_of_mem_unpad (Declaration.mem_of_mem_unescape hc))

/-! ## The table of failures -/

/-- The lines before the rows of failures: the heading of the table, or what stands in its place. -/
def failureHeading (rows : List ReportRow) : List String :=
  if rows.isEmpty then ["**All records passed validation.**"]
  else ["## Failures", "", "| # | Record | Field | Rule | Message |",
    "|---|--------|-------|------|---------|"]

/-- The failures are a heading and a table. -/
theorem failureSection_eq (rows : List ReportRow) :
    failureSection rows = failureHeading rows ++ (tableOf rows).map tableRow ++ [""] := by
  cases rows <;> rfl

/-- The heading stays on its lines and ends with a line that is no row. -/
theorem failureHeading_spec (rows : List ReportRow) :
    (∀ text ∈ failureHeading rows, Text.IsOneLine text.toList) ∧
      ∃ before last, failureHeading rows = before ++ [last] ∧ isRow last.toList = false := by
  cases rows with
  | nil => exact ⟨by decide, [], _, rfl, by decide⟩
  | cons row rest =>
    have hheading : failureHeading (row :: rest) = ["## Failures", "",
      "| # | Record | Field | Rule | Message |", "|---|--------|-------|------|---------|"] := rfl
    rw [hheading]
    exact ⟨by decide, ["## Failures", "", "| # | Record | Field | Rule | Message |"], _, rfl, by decide⟩

/-- A number is written on one line and without pipes. -/
theorem isPlain_repr (n : Nat) : IsPlain n.repr := by
  have hdigit {c : Char} (hc : c ∈ n.repr.toList) : c.isDigit = true := by
    rw [Nat.toList_repr] at hc
    exact Number.isDigit_of_mem_written hc
  refine ⟨fun hc => ?_, fun hc => ?_, fun hc => ?_⟩ <;> cases hdigit hc

/-- What the rows say is plain when the fields, the rules and the messages are. -/
theorem isPlain_tableOf_iff {rows : List ReportRow} :
    (∀ texts ∈ tableOf rows, ∀ text ∈ texts, IsPlain text) ↔
      ∀ row ∈ rows, IsPlain row.failure.field ∧ IsPlain row.failure.rule ∧ IsPlain row.message := by
  constructor
  · intro h row hrow
    rw [← List.zipIdx_map_fst 1 rows] at hrow
    obtain ⟨item, hitem, rfl⟩ := List.mem_map.1 hrow
    have hrow := h _ (List.mem_map_of_mem hitem)
    exact ⟨hrow _ (by simp [cellsOf]), hrow _ (by simp [cellsOf]),
      hrow _ (by simp [cellsOf])⟩
  · intro h texts htexts
    obtain ⟨⟨row, number⟩, hitem, rfl⟩ := List.mem_map.1 htexts
    obtain ⟨hfield, hrule, hmessage⟩ := h row (List.fst_mem_of_mem_zipIdx hitem)
    simp [cellsOf, hfield, hrule, hmessage, isPlain_repr]

/-- Every row of the table has cells. -/
theorem ne_nil_of_mem_tableOf {rows : List ReportRow} (h : texts ∈ tableOf rows) : texts ≠ [] := by
  obtain ⟨item, -, rfl⟩ := List.mem_map.1 h
  exact List.cons_ne_nil _ _

/-- A row stays on one line if its texts do. -/
theorem isOneLine_tableRow (hne : texts ≠ []) (h : ∀ text ∈ texts, Text.IsOneLine text.toList) :
    Text.IsOneLine (tableRow texts).toList := by
  rw [toList_tableRow hne]
  constructor
  · simpa [padded] using fun text htext => (h text htext).1
  · simpa [padded] using fun text htext => (h text htext).2

/-- **The lines of a report** end with those of the table of failures, whatever stands before them, if
the texts of the rows stay on one line. -/
theorem lines_markdown (r : Report)
    (h : ∀ texts ∈ tableOf r.rows, ∀ text ∈ texts, Text.IsOneLine text.toList) :
    ∃ earlier, Text.lines r.markdown.toList =
      earlier ++ (failureSection r.rows).map String.toList := by
  have hsection : ∀ line ∈ (failureSection r.rows).map String.toList, Text.IsOneLine line := by
    rw [failureSection_eq]
    intro line hline
    simp only [List.map_append, List.mem_append, List.mem_map] at hline
    rcases hline with (⟨text, htext, rfl⟩ | ⟨_, ⟨texts, htexts, rfl⟩, rfl⟩) | ⟨text, htext, rfl⟩
    · exact (failureHeading_spec r.rows).1 text htext
    · exact isOneLine_tableRow (ne_nil_of_mem_tableOf htexts) (h texts htexts)
    · obtain rfl := List.mem_singleton.1 htext
      decide
  have hne : failureSection r.rows ≠ [] := by simp [failureSection_eq]
  obtain ⟨before, hbefore⟩ : ∃ before, r.markdown.toList =
      before ++ '\n' :: ['\n'].intercalate ((failureSection r.rows).map String.toList) := by
    rw [markdown, String.intercalate_append_of_ne_nil (by simp) hne, String.toList_append,
      String.toList_append, String.toList_intercalate (l := failureSection r.rows), List.append_assoc]
    exact ⟨_, rfl⟩
  obtain ⟨earlier, hearlier⟩ := Text.lines_append before
    (['\n'].intercalate ((failureSection r.rows).map String.toList))
  rw [hbefore, hearlier, Text.lines_intercalate (by simpa using hne) hsection]
  exact ⟨earlier, rfl⟩

/-- The rows of failures are the body of the table at the end of the document. -/
theorem bodyLines_markdown (r : Report)
    (h : ∀ texts ∈ tableOf r.rows, ∀ text ∈ texts, Text.IsOneLine text.toList) :
    bodyLines r.markdown = (tableOf r.rows).map fun texts => (tableRow texts).toList := by
  obtain ⟨earlier, hearlier⟩ := lines_markdown r h
  obtain ⟨-, before, last, hheading, hlast⟩ := failureHeading_spec r.rows
  have hrows : ∀ line ∈ (tableOf r.rows).map fun texts => (tableRow texts).toList,
      isRow line = true := by
    intro line hline
    obtain ⟨texts, -, rfl⟩ := List.mem_map.1 hline
    simp [isRow, tableRow]
  rw [bodyLines, hearlier, failureSection_eq, hheading]
  simp only [List.map_append, List.map_map, List.map_cons, List.map_nil, ← List.append_assoc,
    List.dropLast_concat]
  rw [List.rtakeWhile, List.reverse_append, List.takeWhile_append_of_pos]
  · simp [hlast, Function.comp_def]
  · intro line hline
    exact hrows line (by simpa [Function.comp_def] using hline)

/-! ## The report -/

/-- **Failures are read back** exactly when their fields, rules and messages are plain. -/
theorem readsBack_markdown_iff (r : Report) : ReadsBack r r.markdown ↔
    ∀ row ∈ r.rows, IsPlain row.failure.field ∧ IsPlain row.failure.rule ∧ IsPlain row.message := by
  rw [← isPlain_tableOf_iff]
  constructor
  · rintro ⟨-, h⟩
    -- What is read comes from single lines, so the lines of the document are those written.
    have hends : ∀ texts ∈ tableOf r.rows, ∀ text ∈ texts, Text.IsOneLine text.toList := by
      intro texts htexts text htext
      rw [← h] at htexts
      obtain ⟨line, hline, rfl⟩ := List.mem_map.1 htexts
      have hline := List.mem_of_mem_dropLast ((List.rtakeWhile_suffix _ _).subset hline)
      exact (Text.isOneLine_of_mem_lines hline).of_subset (subset_of_mem_readRow htext)
    rw [bodyLines_markdown r hends, List.map_map] at h
    intro texts htexts text htext
    have hrow := List.map_inj_left.1 (h.trans (List.map_id _).symm) texts htexts
    have hpipe := (readRow_tableRow_eq_iff (ne_nil_of_mem_tableOf htexts)).1 hrow
    exact ⟨hpipe text htext, hends texts htexts text htext⟩
  · intro h
    have hlines := bodyLines_markdown r fun texts htexts text htext => (h texts htexts text htext).2
    constructor
    · rw [hlines, List.length_map, tableOf, List.length_map, List.length_zipIdx, failureCount]
    · rw [hlines, List.map_map]
      refine (List.map_congr_left fun texts htexts => ?_).trans (List.map_id _)
      exact (readRow_tableRow_eq_iff (ne_nil_of_mem_tableOf htexts)).2
        fun text htext => (h texts htexts text htext).1

/-- **The failures of a batch are read back** from the document of its report exactly when their fields,
rules and messages are plain, whatever the text of the source is. -/
theorem ofResults_readsBack_iff {c : Catalog} (source generatedAt : String) {results : List Result}
    (h : ∀ r ∈ results, ∀ f ∈ r.failures, ∃ message, c.render f = .ok message) :
    ∃ report, ofResults c source generatedAt results = .ok report ∧
      (ReadsBack report report.markdown ↔ ∀ row ∈ report.rows,
        IsPlain row.failure.field ∧ IsPlain row.failure.rule ∧ IsPlain row.message) := by
  obtain ⟨rows, -, hreport⟩ := exists_ofResults source generatedAt h
  exact ⟨_, hreport, readsBack_markdown_iff _⟩

/-- A source that looks like a row, a field with spaces around it and one that ends in a backslash. -/
theorem ofResults_readsBack_spaces :
    let c := Catalog.ofTemplates [("required", "Fill in \x7bfield\x7d")]
    let spaced : Failure := ⟨" user name ", .null, "required", .null⟩
    let backslash : Failure := ⟨"path\\", .text "x", "min_len", .text "2"⟩
    let results := [⟨[spaced]⟩, Result.valid, ⟨[backslash]⟩]
    (∀ r ∈ results, ∀ f ∈ r.failures, ∃ message, c.render f = .ok message) ∧
      ∃ report, ofResults c "a.csv\n| 1 | 0 | f | r | m |" "" results = .ok report ∧
        report.failureCount = 2 ∧ ReadsBack report report.markdown := by
  intro c spaced backslash results
  have hspaced : ∃ message, c.render spaced = .ok message := ⟨_, rfl⟩
  have hbackslash : ∃ message, c.render backslash = .ok message := ⟨_, rfl⟩
  have hrender : ∀ r ∈ results, ∀ f ∈ r.failures, ∃ message, c.render f = .ok message := by
    simp [results, Result.valid, hspaced, hbackslash]
  obtain ⟨report, hreport, hreads⟩ := ofResults_readsBack_iff "a.csv\n| 1 | 0 | f | r | m |" "" hrender
  refine ⟨hrender, report, hreport, ?_⟩
  cases hreport
  exact ⟨rfl, hreads.2 (by decide)⟩

/-- A parameter with a pipe, shown in a message, makes a sixth cell. -/
theorem ofResults_reads_pipe :
    let f : Failure := ⟨"f", .text "x", "contains", .text "a|b"⟩
    (∃ message, Catalog.english.render f = .ok message) ∧
      ∃ report, ofResults Catalog.english "" "" [⟨[f]⟩] = .ok report ∧
        (bodyLines report.markdown).map readRow =
          [["1", "0", "f", "contains", "The F field needs to contain one of these values: a", "b"]] ∧
        ¬ReadsBack report report.markdown := by
  intro f
  refine ⟨⟨_, rfl⟩, _, rfl, ?_, ?_⟩
  · rw [bodyLines_markdown _ (by decide +kernel)]
    decide +kernel
  · rw [readsBack_markdown_iff]
    decide +kernel

end RecordRules.Report
