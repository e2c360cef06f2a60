import Mathlib.Computability.Language
import RecordRules.Text.Shape

/-!
# The words of a shape

A shape lists what is left of a text after each way of matching the start of it. It denotes a language if
what is left is what follows a word of the language (`Shape.Denotes`). Shapes are put together as languages
are: one after another is the product, an optional shape the sum with the empty word. A text fits a shape
exactly if it is a word of the language (`Shape.Denotes.fits_iff`).
-/

namespace RecordRules.Text

/-- The words of so many characters, all of a kind. -/
def wordsOf (n : Nat) (p : Char → Bool) : Language Char := {w | w.length = n ∧ ∀ c ∈ w, p c = true}

/-- The words of at most so many characters, all of a kind. -/
def wordsUpTo (n : Nat) (p : Char → Bool) : Language Char :=
  {w | w.length ≤ n ∧ ∀ c ∈ w, p c = true}

section
variable {m n : Nat} {p : Char → Bool} {w : List Char}

/-- The only word without characters. -/
theorem wordsOf_zero : wordsOf 0 p = 1 := by
  ext w
  rw [Language.mem_one]
  constructor
  · rintro ⟨hlength, -⟩
    exact List.length_eq_zero_iff.1 hlength
  · rintro rfl
    exact ⟨rfl, by simp⟩

/-- A word of one character. -/
theorem mem_wordsOf_one : w ∈ wordsOf 1 p ↔ ∃ c, p c = true ∧ w = [c] := by
  constructor
  · rintro ⟨hlength, hall⟩
    obtain ⟨c, rfl⟩ := List.length_eq_one_iff.1 hlength
    exact ⟨c, hall c List.mem_cons_self, rfl⟩
  · rintro ⟨c, hc, rfl⟩
    exact ⟨rfl, List.forall_mem_singleton.2 hc⟩

/-- A longer word begins with a character. -/
theorem wordsOf_succ : wordsOf (n + 1) p = wordsOf 1 p * wordsOf n p := by
  ext w
  rw [Language.mem_mul]
  constructor
  · rintro ⟨hlength, hall⟩
    obtain ⟨c, rest, rfl⟩ := List.exists_cons_of_length_eq_add_one hlength
    obtain ⟨hc, hrest⟩ := List.forall_mem_cons.1 hall
    exact ⟨[c], mem_wordsOf_one.2 ⟨c, hc, rfl⟩, rest, ⟨Nat.succ.inj hlength, hrest⟩, rfl⟩
  · rintro ⟨u, hu, v, ⟨hlength, hall⟩, rfl⟩
    obtain ⟨c, hc, rfl⟩ := mem_wordsOf_one.1 hu
    exact ⟨congrArg Nat.succ hlength, List.forall_mem_cons.2 ⟨hc, hall⟩⟩

/-- A word is cut into one of the first characters and one of the others. -/
theorem wordsOf_add : wordsOf (m + n) p = wordsOf m p * wordsOf n p := by
  induction m with
  | zero => rw [Nat.zero_add, wordsOf_zero, one_mul]
  | succ m ih => rw [Nat.add_right_comm, wordsOf_succ (n := m + n), ih, wordsOf_succ (n := m), mul_assoc]

/-- A word is empty or begins with a character. -/
theorem wordsUpTo_succ : wordsUpTo (n + 1) p = 1 + wordsOf 1 p * wordsUpTo n p := by
  ext w
  rw [Language.mem_add, Language.mem_one, Language.mem_mul]
  constructor
  · rintro ⟨hlength, hall⟩
    cases w with
    | nil => exact .inl rfl
    | cons c rest =>
      obtain ⟨hc, hrest⟩ := List.forall_mem_cons.1 hall
      exact .inr ⟨[c], mem_wordsOf_one.2 ⟨c, hc, rfl⟩, rest, ⟨Nat.le_of_succ_le_succ hlength, hrest⟩, rfl⟩
  · rintro (rfl | ⟨u, hu, v, ⟨hlength, hall⟩, rfl⟩)
    · exact ⟨Nat.zero_le _, by simp⟩
    · obtain ⟨c, hc, rfl⟩ := mem_wordsOf_one.1 hu
      exact ⟨Nat.succ_le_succ hlength, List.forall_mem_cons.2 ⟨hc, hall⟩⟩

/-- A word that is not empty begins with a character. -/
theorem mem_wordsUpTo_succ_iff (hne : w ≠ []) :
    w ∈ wordsUpTo (n + 1) p ↔ w ∈ wordsOf 1 p * wordsUpTo n p := by
  rw [wordsUpTo_succ, Language.mem_add, Language.mem_one, or_iff_right hne]

/-- No character may be used. -/
theorem wordsUpTo_zero : wordsUpTo 0 p = 1 := by
  ext w
  rw [Language.mem_one]
  constructor
  · rintro ⟨hlength, -⟩
    exact List.length_eq_zero_iff.1 (Nat.le_zero.1 hlength)
  · rintro rfl
    exact ⟨Nat.le_refl 0, by simp⟩

end

/-- A word of a product of languages is made of words of the factors. -/
theorem mem_prod_iff {ls : List (Language Char)} {w : List Char} :
    w ∈ ls.prod ↔ ∃ ws, List.Forall₂ (· ∈ ·) ws ls ∧ ws.flatten = w := by
  induction ls generalizing w with
  | nil => simp [Language.mem_one, eq_comm]
  | cons l ls ih =>
    rw [List.prod_cons, Language.mem_mul]
    constructor
    · rintro ⟨u, hu, v, hv, rfl⟩
      obtain ⟨ws, hws, rfl⟩ := ih.1 hv
      exact ⟨u :: ws, .cons hu hws, List.flatten_cons⟩
    · rintro ⟨ws, hws, rfl⟩
      obtain _ | ⟨hu, hws⟩ := hws
      exact ⟨_, hu, _, ih.2 ⟨_, hws, rfl⟩, List.flatten_cons.symm⟩

namespace Shape

/-- A shape leaves of a text what follows a word of the language, for each such word. -/
def Denotes (a : Shape) (l : Language Char) : Prop :=
  ∀ s rest, rest ∈ a s ↔ ∃ w ∈ l, w ++ rest = s

section
variable {a b : Shape} {l m : Language Char} {n : Nat} {p : Char → Bool} {s : List Char}

/-- **The words of a shape** are the texts that fit it. -/
theorem Denotes.fits_iff (h : a.Denotes l) : a.fits s = true ↔ s ∈ l := by
  rw [fits, List.any_eq_true]
  constructor
  · rintro ⟨rest, hrest, hempty⟩
    obtain rfl := List.isEmpty_iff.1 hempty
    obtain ⟨w, hw, rfl⟩ := (h s []).1 hrest
    rwa [List.append_nil]
  · intro hs
    exact ⟨[], (h s []).2 ⟨s, hs, List.append_nil s⟩, rfl⟩

/-- One character of a class. -/
theorem one_denotes : (one p).Denotes (wordsOf 1 p) := by
  intro s rest
  constructor
  · intro h
    cases s with
    | nil => cases h
    | cons c s =>
      rw [one] at h
      split at h
      · next hc =>
        obtain rfl := List.mem_singleton.1 h
        exact ⟨[c], mem_wordsOf_one.2 ⟨c, hc, rfl⟩, rfl⟩
      · cases h
  · rintro ⟨w, hw, rfl⟩
    obtain ⟨c, hc, rfl⟩ := mem_wordsOf_one.1 hw
    rw [List.singleton_append, one, if_pos hc]
    exact List.mem_singleton_self rest

/-- One shape after another. -/
theorem Denotes.andThen (ha : a.Denotes l) (hb : b.Denotes m) : (a.andThen b).Denotes (l * m) := by
  intro s rest
  rw [Shape.andThen, List.mem_flatMap]
  constructor
  · rintro ⟨middle, hmiddle, hrest⟩
    obtain ⟨u, hu, rfl⟩ := (ha s middle).1 hmiddle
    obtain ⟨v, hv, rfl⟩ := (hb middle rest).1 hrest
    exact ⟨u ++ v, Language.mem_mul.2 ⟨u, hu, v, hv, rfl⟩, List.append_assoc u v rest⟩
  · rintro ⟨w, hw, rfl⟩
    obtain ⟨u, hu, v, hv, rfl⟩ := Language.mem_mul.1 hw
    exact ⟨v ++ rest, (ha _ _).2 ⟨u, hu, (List.append_assoc u v rest).symm⟩, (hb _ _).2 ⟨v, hv, rfl⟩⟩

/-- A shape that may be missing. -/
theorem Denotes.opt (ha : a.Denotes l) : (Shape.opt a).Denotes (1 + l) := by
  intro s rest
  rw [Shape.opt, List.mem_cons, ha s rest]
  constructor
  · rintro (rfl | ⟨w, hw, rfl⟩)
    · exact ⟨[], .inl rfl, rfl⟩
    · exact ⟨w, .inr hw, rfl⟩
  · rintro ⟨w, hw | hw, rfl⟩
    · obtain rfl := (Language.mem_one _).1 hw
      exact .inl rfl
    · exact .inr ⟨w, hw, rfl⟩

/-- The shape that matches nothing but the start itself. -/
theorem denotes_one : Denotes (fun s => [s]) 1 := by
  intro s rest
  rw [List.mem_singleton]
  constructor
  · rintro rfl
    exact ⟨[], (Language.mem_one _).2 rfl, rfl⟩
  · rintro ⟨w, hw, rfl⟩
    obtain rfl := (Language.mem_one _).1 hw
    rfl

/-- So many characters of a class. -/
theorem times_one_denotes : (times n (one p)).Denotes (wordsOf n p) := by
  induction n with
  | zero =>
    rw [wordsOf_zero]
    exact denotes_one
  | succ n ih =>
    rw [wordsOf_succ]
    exact one_denotes.andThen ih

/-- At most so many characters of a class. -/
theorem upTo_one_denotes : (upTo n (one p)).Denotes (wordsUpTo n p) := by
  induction n with
  | zero =>
    rw [wordsUpTo_zero]
    exact denotes_one
  | succ n ih =>
    rw [wordsUpTo_succ]
    exact (one_denotes.andThen ih).opt

/-- Shapes one after the other denote the product of what they denote. -/
theorem all_denotes {shapes : List Shape} {ls : List (Language Char)}
    (h : List.Forall₂ Denotes shapes ls) : (all shapes).Denotes ls.prod := by
  induction h with
  | nil => exact denotes_one
  | cons ha _ ih =>
    rw [List.prod_cons]
    exact ha.andThen ih

end

end Shape

end RecordRules.Text
