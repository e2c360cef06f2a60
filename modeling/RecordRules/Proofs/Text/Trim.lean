import Mathlib.Data.List.DropRight
import Mathlib.Data.List.TakeWhile
import RecordRules.Number.Decimal

/-!
# What trimming leaves

Trimming takes characters of one kind from both ends of a text, all white space (`Text.trim`) or only
that of ASCII (`Numeral.trimAscii`). Such characters around a text make no difference
(`Text.stripped_append`), nothing else is taken away (`Text.exists_stripped`), and what is left neither
begins nor ends with one of them.
-/

namespace RecordRules

variable {s before mid after : List Char} {p : Char → Bool}

/-- Nothing is dropped from a text that begins with something else. -/
theorem dropWhile_of_head (h : ∀ c ∈ s.head?, p c = false) : s.dropWhile p = s := by
  cases s with
  | nil => rfl
  | cons c rest => rw [List.dropWhile_cons_of_neg (by simp [h c rfl])]

namespace Text

/-- A text without the characters of a kind at its ends. -/
def stripped (p : Char → Bool) (s : List Char) : List Char :=
  ((s.dropWhile p).reverse.dropWhile p).reverse

/-- Trimming strips white space. -/
theorem trim_eq_stripped (s : List Char) : trim s = stripped isBlank s := rfl

/-- Trimming numbers strips ASCII white space. -/
theorem trimAscii_eq_stripped (s : List Char) :
    Numeral.trimAscii s = stripped isAsciiBlank s := rfl

/-- Characters of the kind around a text make no difference. -/
theorem stripped_append (hbefore : ∀ c ∈ before, p c = true) (hafter : ∀ c ∈ after, p c = true) :
    stripped p (before ++ (mid ++ after)) = stripped p mid := by
  rw [stripped, stripped, List.dropWhile_append_of_pos hbefore, List.dropWhile_append]
  split
  · next hmid => rw [List.isEmpty_iff.1 hmid, List.dropWhile_eq_nil_iff.2 hafter]
  · rw [List.reverse_append, List.dropWhile_append_of_pos fun c hc => hafter c (List.mem_reverse.1 hc)]

/-- A text that neither begins nor ends with a character of the kind is left alone. -/
theorem stripped_of_ends (hfirst : ∀ c ∈ s.head?, p c = false)
    (hlast : ∀ c ∈ s.getLast?, p c = false) : stripped p s = s := by
  have hreverse : s.reverse.dropWhile p = s.reverse :=
    dropWhile_of_head fun c hc => hlast c (by rwa [List.head?_reverse] at hc)
  rw [stripped, dropWhile_of_head hfirst, hreverse, List.reverse_reverse]

/-- There is nothing to strip where there is no such character. -/
theorem stripped_of_not_mem (h : ∀ c ∈ s, p c = false) : stripped p s = s :=
  stripped_of_ends (fun c hc => h c (List.mem_of_mem_head? hc))
    fun c hc => h c (List.mem_of_getLast? hc)

/-- What is left does not begin with a character of the kind. -/
theorem head?_stripped : ∀ c ∈ (stripped p s).head?, p c = false := by
  intro c hc
  have hbegins : stripped p s <+: s.dropWhile p := List.rdropWhile_prefix p (s.dropWhile p)
  obtain ⟨rest, hrest⟩ := hbegins
  have hhead : (s.dropWhile p).head? = some c := by
    rw [← hrest, List.head?_append_of_ne_nil _ (by rintro h; simp [h] at hc)]
    exact hc
  have hnot := List.head?_dropWhile_not p s
  rwa [hhead] at hnot

/-- What is left does not end with a character of the kind. -/
theorem getLast?_stripped : ∀ c ∈ (stripped p s).getLast?, p c = false := by
  intro c hc
  rw [stripped, List.getLast?_reverse] at hc
  have hnot := List.head?_dropWhile_not p (s.dropWhile p).reverse
  rwa [hc] at hnot

/-- Only characters of the kind are taken away. -/
theorem exists_stripped (p : Char → Bool) (s : List Char) :
    ∃ before after, s = before ++ (stripped p s ++ after) ∧ (∀ c ∈ before, p c = true) ∧
      ∀ c ∈ after, p c = true := by
  refine ⟨s.takeWhile p, ((s.dropWhile p).reverse.takeWhile p).reverse, ?_, ?_, ?_⟩
  · rw [stripped, ← List.reverse_append, List.takeWhile_append_dropWhile, List.reverse_reverse,
      List.takeWhile_append_dropWhile]
  · exact List.all_eq_true.1 List.all_takeWhile
  · intro c hc
    exact List.all_eq_true.1 List.all_takeWhile c (List.mem_reverse.1 hc)

/-- There is nothing to trim where there is no white space. -/
theorem trim_of_not_isBlank (h : ∀ c ∈ s, isBlank c = false) : trim s = s :=
  stripped_of_not_mem h

end Text

end RecordRules
