import Mathlib.Data.List.Forall2
import Mathlib.Data.List.TakeWhile
import RecordRules.Proofs.Declaration.Segments
import RecordRules.Proofs.Traversal

/-!
# What declarations mean

Each function that reads a declaration has one statement here about what it gives. A text means the
invocation whose declaration it is (`invocation?_eq_some_iff`); a segment is read after its escapes
are undone, and it is refused when it is empty or starts with a comma
(`segmentInvocation_eq_error_iff`); a declaration is read segment by segment, up to the first one
that is refused (`parseRules_eq_ok_iff`, `parseRules_eq_error_iff`).
-/

namespace RecordRules

namespace Declaration

variable {s t : List Char} {i : Invocation}

/-- The text of a rule as characters: the name, and after a comma the parameter if there is one. -/
theorem toList_declaration (name : String) (param : Option String) :
    (Invocation.declaration ⟨name, param⟩).toList =
      name.toList ++ (param.map fun p => ',' :: p.toList).getD [] := by
  cases param <;> simp [Invocation.declaration]

/-- A text is split at its first comma into a name without commas and what follows the comma. -/
theorem splitName_eq_iff {name : List Char} {param : Option (List Char)} :
    splitName s = (name, param) ↔
      ',' ∉ name ∧ name ++ (param.map (',' :: ·)).getD [] = s := by
  rw [splitName, Prod.mk.injEq]
  constructor
  · rintro ⟨rfl, rfl⟩
    refine ⟨fun h => by simpa using List.mem_takeWhile_imp h, ?_⟩
    conv_rhs => rw [← List.takeWhile_append_dropWhile (p := (· ≠ ',')) (l := s)]
    have hnot := List.head?_dropWhile_not (· ≠ ',') s
    cases hd : s.dropWhile (· ≠ ',') with
    | nil => simp
    | cons c rest =>
      rw [hd] at hnot
      simp_all
  · rintro ⟨hname, rfl⟩
    have hpos : ∀ c ∈ name, decide (c ≠ ',') = true := by
      intro c hc
      rw [decide_eq_true_iff]
      rintro rfl
      exact hname hc
    rw [List.takeWhile_append_of_pos hpos, List.dropWhile_append_of_pos hpos]
    cases param <;> simp

/-- **What a text means**: the invocation with a name, not empty and without commas, whose
declaration is the text. -/
theorem invocation?_eq_some_iff : invocation? s = some i ↔
    i.name ≠ "" ∧ ',' ∉ i.name.toList ∧ i.declaration.toList = s := by
  obtain ⟨name, param⟩ := i
  rw [invocation?, toList_declaration]
  constructor
  · intro h
    split at h
    · cases h
    · next chars p hne heq =>
      obtain ⟨hcomma, hs⟩ := splitName_eq_iff.1 heq
      cases h
      refine ⟨?_, by simpa using hcomma, ?_⟩
      · rw [Ne, String.ofList_eq_empty_iff]
        exact hne
      · rw [← hs]
        cases p <;> simp
  · rintro ⟨hne, hcomma, hs⟩
    have heq : splitName s = (name.toList, param.map String.toList) :=
      splitName_eq_iff.2 ⟨hcomma, by rw [← hs]; cases param <;> simp⟩
    rw [heq]
    split
    · next h =>
      exact absurd (String.toList_eq_nil_iff.1 (Prod.mk.inj h).1) hne
    · next h =>
      obtain ⟨rfl, rfl⟩ := Prod.mk.inj h
      cases param <;> simp

/-- A text means no invocation when it has no name: it is empty or starts with a comma. -/
theorem invocation?_eq_none_iff : invocation? s = none ↔ s = [] ∨ s.head? = some ',' := by
  cases s with
  | nil => simp [invocation?, splitName]
  | cons c s => by_cases h : c = ',' <;> simp [invocation?, splitName, h]

/-- A segment means what it says once its escapes are undone. -/
theorem segmentInvocation_eq_ok_iff :
    segmentInvocation t = .ok i ↔ invocation? (unescape t) = some i := by
  cases t with
  | nil => simp [segmentInvocation, unescape, invocation?, splitName]
  | cons c t => simp only [segmentInvocation]; split <;> simp_all

/-- A segment is refused when it is empty or its name is. -/
theorem segmentInvocation_eq_error_iff {flaw : Flaw} :
    segmentInvocation t = .error flaw ↔
      t = [] ∧ flaw = .emptyRule ∨ t.head? = some ',' ∧ flaw = .emptyName := by
  cases t with
  | nil => simp [segmentInvocation, eq_comm]
  | cons c t =>
    have hnone : invocation? (unescape (c :: t)) = none ↔ (c :: t).head? = some ',' := by
      rw [invocation?_eq_none_iff, unescape_eq_nil_iff, head?_unescape_eq_comma_iff]
      simp
    simp only [← hnone, segmentInvocation]
    split
    · next h => simp [h, eq_comm]
    · next h => simp [h]

end Declaration

variable {d : String}

/-- **A declaration that is read**: each of its segments means an invocation. -/
theorem parseRules_eq_ok_iff {invocations : List Invocation} (hd : d ≠ "") :
    parseRules d = .ok invocations ↔
      List.Forall₂ (fun t i => Declaration.invocation? (Declaration.unescape t) = some i)
        (Declaration.segments false d.toList) invocations := by
  simp only [← Declaration.segmentInvocation_eq_ok_iff, ← mapM_eq_ok_iff]
  rw [parseRules, if_neg hd]
  split <;> simp_all

/-- **A declaration that is refused**: it is not empty, and some segment is refused while the
segments before it mean invocations. -/
theorem parseRules_eq_error_iff {e : Malformed} :
    parseRules d = .error e ↔ d ≠ "" ∧ e.declaration = d ∧
      ∃ before t after, Declaration.segments false d.toList = before ++ t :: after ∧
        (∀ u ∈ before, ∃ i, Declaration.segmentInvocation u = .ok i) ∧
        Declaration.segmentInvocation t = .error e.flaw := by
  obtain ⟨declaration, flaw⟩ := e
  rw [← mapM_eq_error_iff, parseRules]
  split
  · next h => simp [h]
  · next hd =>
    split
    · next flaw' h => simp [hd, h, eq_comm]
    · next h => simp [h]

end RecordRules
