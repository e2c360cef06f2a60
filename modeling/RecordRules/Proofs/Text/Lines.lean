import RecordRules.Proofs.Text.Split
import RecordRules.Text.Newline

/-!
# Lines of a text

A line ends at a line feed, a carriage return or both together. Whatever stands before a line feed,
the lines behind it are those of the rest (`lines_append`), and texts without line ends are the lines
of the text that they are joined to (`lines_intercalate`).
-/

namespace RecordRules.Text

/-- The lines of a text without their ends. -/
def lines (s : List Char) : List (List Char) := splitAll '\n' (unifyNewlines s)

variable {s line : List Char}

/-- The text holds no line end. -/
def IsOneLine (s : List Char) : Prop := '\n' ∉ s ∧ '\r' ∉ s

instance : DecidablePred IsOneLine := fun _ => inferInstanceAs (Decidable (_ ∧ _))

/-- What has no other characters than a line is one line. -/
theorem IsOneLine.of_subset (h : IsOneLine line) (hs : s ⊆ line) : IsOneLine s :=
  ⟨fun hc => h.1 (hs hc), fun hc => h.2 (hs hc)⟩

/-- Each of the lines of a text is one line. -/
theorem isOneLine_of_mem_lines (h : line ∈ lines s) : IsOneLine line :=
  ⟨fun hc => (mem_of_mem_splitAll h hc).2 rfl,
    fun hc => unifyNewlines_no_return s (mem_of_mem_splitAll h hc).1⟩

/-- A text without carriage returns stays as it is. -/
theorem unifyNewlines_of_not_mem (h : '\r' ∉ s) : unifyNewlines s = s := by
  fun_induction unifyNewlines s with
  | case1 => rfl
  | case2 rest => simp at h
  | case3 c rest _ ih =>
    rw [List.mem_cons, not_or] at h
    rw [if_neg (Ne.symm h.1), ih h.2]

/-- A line feed may be part of the line end that starts before it; what follows it is not changed. -/
theorem unifyNewlines_append (before after : List Char) :
    ∃ unified, unifyNewlines (before ++ '\n' :: after) = unified ++ '\n' :: unifyNewlines after := by
  induction before using unifyNewlines.induct with
  | case1 => exact ⟨[], by simp [unifyNewlines]⟩
  | case2 rest ih =>
    obtain ⟨unified, h⟩ := ih
    exact ⟨'\n' :: unified, by simp [unifyNewlines, h]⟩
  | case3 c rest hpair ih =>
    obtain ⟨unified, h⟩ := ih
    by_cases hreturn : c = '\r' ∧ rest = []
    · obtain ⟨rfl, rfl⟩ := hreturn
      exact ⟨[], by simp [unifyNewlines]⟩
    · refine ⟨(if c = '\r' then '\n' else c) :: unified, ?_⟩
      rw [List.cons_append, unifyNewlines, h, List.cons_append]
      rintro tail rfl hrest
      cases rest with
      | nil => exact hreturn ⟨rfl, rfl⟩
      | cons d rest =>
        obtain ⟨rfl, rfl⟩ := List.cons.inj hrest
        exact hpair rest rfl rfl

/-- The lines behind a line feed. -/
theorem lines_append (before after : List Char) :
    ∃ earlier, lines (before ++ '\n' :: after) = earlier ++ lines after := by
  obtain ⟨unified, h⟩ := unifyNewlines_append before after
  exact ⟨splitAll '\n' unified, by rw [lines, h, splitAll_append, lines]⟩

/-- **Lines are read back** from the text that they make. -/
theorem lines_intercalate {pieces : List (List Char)} (hne : pieces ≠ [])
    (h : ∀ piece ∈ pieces, IsOneLine piece) :
    lines (['\n'].intercalate pieces) = pieces := by
  have hreturn : '\r' ∉ ['\n'].intercalate pieces := by
    intro hmem
    rcases mem_of_mem_intercalate hmem with hfeed | ⟨piece, hpiece, hc⟩
    · cases hfeed
    · exact (h piece hpiece).2 hc
  rw [lines, unifyNewlines_of_not_mem hreturn]
  exact splitAll_intercalate hne fun piece hpiece => (h piece hpiece).1

end RecordRules.Text
