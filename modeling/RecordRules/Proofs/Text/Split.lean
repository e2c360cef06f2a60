import Mathlib.Data.List.TakeWhile
import RecordRules.Text.Split

/-!
# Where texts are cut

A text that holds a character is cut before its first occurrence, and before the cut there is none
(`cut_iff`). Splitting at every occurrence makes one piece more than there are occurrences
(`length_splitAll`), so a text without one stays whole (`splitAll_of_not_mem`), and such texts are the
pieces of what they are joined to (`splitAll_intercalate`).
-/

namespace RecordRules.Text

variable {c sep : Char} {s before after : List Char}

/-- **The first cut**: what stands before it does not hold the character. -/
theorem cut_iff : (s.takeWhile (· ≠ c) = before ∧ s.dropWhile (· ≠ c) = c :: after) ↔
    c ∉ before ∧ s = before ++ c :: after := by
  constructor
  · rintro ⟨rfl, hafter⟩
    refine ⟨fun h => by simpa using List.mem_takeWhile_imp h, ?_⟩
    rw [← hafter, List.takeWhile_append_dropWhile]
  · rintro ⟨h, rfl⟩
    have hpos : ∀ d ∈ before, decide (d ≠ c) = true := by
      intro d hd
      rw [decide_eq_true_iff]
      rintro rfl
      exact h hd
    rw [List.takeWhile_append_of_pos hpos, List.dropWhile_append_of_pos hpos]
    simp

/-- The character at the cut is the one looked for. -/
theorem eq_of_dropWhile_ne {d : Char} (h : s.dropWhile (· ≠ c) = d :: after) : d = c := by
  have hnot := List.head?_dropWhile_not (· ≠ c) s
  rw [h] at hnot
  simpa using hnot

/-- Everything is dropped when the character does not come. -/
theorem dropWhile_ne_eq_nil_iff : s.dropWhile (· ≠ c) = [] ↔ c ∉ s := by
  rw [List.dropWhile_eq_nil_iff]
  constructor
  · intro h hc
    simpa using h c hc
  · intro h d hd
    rw [decide_eq_true_iff]
    rintro rfl
    exact h hd

/-- Joining with a character is joining with the text of one character. -/
theorem joinWith_eq_intercalate (pieces : List (List Char)) :
    joinWith sep pieces = [sep].intercalate pieces := by
  induction pieces with
  | nil => rfl
  | cons piece pieces ih => cases pieces <;> simp_all [joinWith, List.intercalate_cons_cons]

/-- Joining adds nothing but separators. -/
theorem mem_of_mem_intercalate {pieces : List (List Char)} (h : c ∈ [sep].intercalate pieces) :
    c = sep ∨ ∃ piece ∈ pieces, c ∈ piece := by
  induction pieces with
  | nil => simp at h
  | cons piece pieces ih =>
    cases pieces with
    | nil => exact .inr ⟨piece, by simp, by simpa using h⟩
    | cons next pieces =>
      rw [List.intercalate_cons_cons, List.append_assoc, List.mem_append, List.singleton_append,
        List.mem_cons] at h
      rcases h with h | rfl | h
      · exact .inr ⟨piece, by simp, h⟩
      · exact .inl rfl
      · exact (ih h).imp_right fun ⟨p, hp, hc⟩ => ⟨p, List.mem_cons_of_mem _ hp, hc⟩

/-- The characters of a piece are among those of the whole. -/
theorem mem_intercalate {pieces : List (List Char)} {piece : List Char} (hpiece : piece ∈ pieces)
    (hc : c ∈ piece) : c ∈ [sep].intercalate pieces := by
  induction pieces with
  | nil => cases hpiece
  | cons first pieces ih =>
    cases pieces with
    | nil =>
      obtain rfl := List.mem_singleton.1 hpiece
      simpa using hc
    | cons next pieces =>
      rw [List.intercalate_cons_cons, List.append_assoc, List.mem_append]
      rcases List.mem_cons.1 hpiece with rfl | hpiece
      · exact .inl hc
      · exact .inr (List.mem_append_right _ (ih hpiece))

/-- There is one piece more than there are separators. -/
theorem length_splitAll : (splitAll sep s).length = s.count sep + 1 := by
  induction s with
  | nil => rfl
  | cons c s ih =>
    rw [splitAll]
    by_cases h : c = sep
    · simp [h, ih]
    · cases hs : splitAll sep s with
      | nil => exact absurd hs (splitAll_ne_nil sep s)
      | cons piece pieces =>
        rw [hs] at ih
        simpa [h] using ih

/-- A text without the separator is its only piece. -/
theorem splitAll_of_not_mem (h : sep ∉ s) : splitAll sep s = [s] := by
  have hlength : (splitAll sep s).length = 1 := by rw [length_splitAll, List.count_eq_zero.2 h]
  obtain ⟨piece, hpiece⟩ := List.length_eq_one_iff.1 hlength
  have hjoin := joinWith_splitAll sep s
  rw [hpiece, joinWith] at hjoin
  rw [hpiece, hjoin]

/-- A separator ends the pieces of what stands before it. -/
theorem splitAll_append (before after : List Char) :
    splitAll sep (before ++ sep :: after) = splitAll sep before ++ splitAll sep after := by
  induction before with
  | nil => simp [splitAll]
  | cons c before ih =>
    rw [List.cons_append, splitAll, splitAll, ih]
    split
    · rfl
    · cases hs : splitAll sep before with
      | nil => exact absurd hs (splitAll_ne_nil sep before)
      | cons piece pieces => rfl

/-- A character that does not separate belongs to the first piece. -/
theorem splitAll_cons_of_ne {piece : List Char} {pieces : List (List Char)} (hc : c ≠ sep)
    (hs : splitAll sep s = piece :: pieces) : splitAll sep (c :: s) = (c :: piece) :: pieces := by
  rw [splitAll, if_neg hc, hs]

/-- What is put before a text becomes part of its first piece. -/
theorem exists_splitAll_prepend (h : sep ∉ before) (s : List Char) :
    ∃ first pieces, splitAll sep s = first :: pieces ∧
      splitAll sep (before ++ s) = (before ++ first) :: pieces := by
  induction before with
  | nil =>
    obtain ⟨first, pieces, hs⟩ := List.exists_cons_of_ne_nil (splitAll_ne_nil sep s)
    exact ⟨first, pieces, hs, hs⟩
  | cons c before ih =>
    rw [List.mem_cons, not_or] at h
    obtain ⟨first, pieces, hs, hbefore⟩ := ih h.2
    exact ⟨first, pieces, hs, splitAll_cons_of_ne (Ne.symm h.1) hbefore⟩

/-- What is put after a text becomes part of its last piece. -/
theorem exists_splitAll_append (h : sep ∉ after) (s : List Char) :
    ∃ pieces last, splitAll sep s = pieces ++ [last] ∧
      splitAll sep (s ++ after) = pieces ++ [last ++ after] := by
  induction s with
  | nil => exact ⟨[], [], rfl, splitAll_of_not_mem h⟩
  | cons c s ih =>
    obtain ⟨pieces, last, hs, hafter⟩ := ih
    by_cases hc : c = sep
    · refine ⟨[] :: pieces, last, ?_, ?_⟩
      · rw [splitAll, if_pos hc, hs, List.cons_append]
      · rw [List.cons_append, splitAll, if_pos hc, hafter, List.cons_append]
    · cases pieces with
      | nil => exact ⟨[], c :: last, splitAll_cons_of_ne hc hs, splitAll_cons_of_ne hc hafter⟩
      | cons first pieces =>
        exact ⟨(c :: first) :: pieces, last, splitAll_cons_of_ne hc hs, splitAll_cons_of_ne hc hafter⟩

/-- Splitting is that of the standard library. -/
theorem splitAll_eq_splitOn (sep : Char) (s : List Char) : splitAll sep s = s.splitOn sep := by
  induction s with
  | nil => rfl
  | cons c s ih =>
    rw [splitAll, ih, List.splitOn, List.splitOn, List.splitOnP_cons_eq_if_modifyHead]
    by_cases h : c = sep
    · simp [h]
    · rw [if_neg h, if_neg (by simpa using h)]
      cases hs : s.splitOnP (· == sep) with
      | nil => exact absurd hs (List.splitOnP_ne_nil _ _)
      | cons piece pieces => rfl

/-- Pieces without the separator are those of the text that they are joined to. -/
theorem splitAll_intercalate {pieces : List (List Char)} (hne : pieces ≠ [])
    (h : ∀ piece ∈ pieces, sep ∉ piece) : splitAll sep ([sep].intercalate pieces) = pieces := by
  rw [splitAll_eq_splitOn]
  exact List.splitOn_intercalate sep h hne

/-- A piece is made of characters of the text other than the separator. -/
theorem mem_of_mem_splitAll {piece : List Char} (hpiece : piece ∈ splitAll sep s) (hc : c ∈ piece) :
    c ∈ s ∧ c ≠ sep := by
  induction s generalizing piece with
  | nil => simp_all [splitAll]
  | cons d s ih =>
    rw [splitAll] at hpiece
    split at hpiece
    · rcases List.mem_cons.1 hpiece with rfl | hpiece
      · cases hc
      · exact (ih hpiece hc).imp_left (List.mem_cons_of_mem d)
    · next hd =>
      cases hs : splitAll sep s with
      | nil => exact absurd hs (splitAll_ne_nil sep s)
      | cons first pieces =>
        rw [hs] at ih hpiece
        rcases List.mem_cons.1 hpiece with rfl | hpiece
        · rcases List.mem_cons.1 hc with rfl | hc
          · exact ⟨List.mem_cons_self, hd⟩
          · exact (ih List.mem_cons_self hc).imp_left (List.mem_cons_of_mem d)
        · exact (ih (List.mem_cons_of_mem _ hpiece) hc).imp_left (List.mem_cons_of_mem d)

end RecordRules.Text
