import Mathlib.Data.Nat.ModEq
import RecordRules.Proofs.Check.Luhn
import RecordRules.Proofs.Number.Digits
import RecordRules.Proofs.Text.Shape

/-!
# Account numbers

An account number is made of a country code, two check digits, four letters or digits, groups of four
digits and one to four digits (`Check.Account`); single spaces may stand before each part but the first
two. So taking out all spaces leaves the form as it is, and so does putting one after every fourth
character (`Check.isIban_forms`). The number that a text stands for does not depend on spaces; a letter or
digit that is exchanged for another one changes it by less than 97 times a power of ten, which 97 does not
divide (`Check.isIban_detects`).
-/

namespace RecordRules.Check

open Text

/-! ## Spaces between words -/

/-- A text without spaces has none to take out. -/
theorem filter_ne_space {s : List Char} (h : ' ' ∉ s) : s.filter (· ≠ ' ') = s :=
  List.filter_eq_self.2 fun _ hc => decide_eq_true fun hspace => h (hspace ▸ hc)

/-- Words one after the other, each perhaps after a single space. -/
inductive Spaced : List (List Char) → List Char → Prop
  | nil : Spaced [] []
  | close {words s} (word : List Char) : Spaced words s → Spaced (word :: words) (word ++ s)
  | apart {words s} (word : List Char) : Spaced words s → Spaced (word :: words) (' ' :: (word ++ s))

namespace Spaced

variable {words more : List (List Char)} {s t : List Char}

/-- Words may follow each other with nothing between. -/
theorem flatten (words : List (List Char)) : Spaced words words.flatten := by
  induction words with
  | nil => exact .nil
  | cons word words ih => exact .close word ih

/-- Words may each follow a space. -/
theorem flatMap (words : List (List Char)) : Spaced words (words.flatMap (' ' :: ·)) := by
  induction words with
  | nil => exact .nil
  | cons word words ih => exact .apart word ih

/-- Spaced words followed by spaced words are spaced words. -/
theorem append (hs : Spaced words s) (ht : Spaced more t) : Spaced (words ++ more) (s ++ t) := by
  induction hs with
  | nil => exact ht
  | close word _ ih =>
    rw [List.cons_append, List.append_assoc]
    exact .close word ih
  | apart word _ ih =>
    rw [List.cons_append, List.cons_append, List.append_assoc]
    exact .apart word ih

/-- A text of spaced words is cut where its words are. -/
theorem exists_append (h : Spaced (words ++ more) s) :
    ∃ t u, s = t ++ u ∧ Spaced words t ∧ Spaced more u := by
  induction words generalizing s with
  | nil => exact ⟨[], s, rfl, .nil, h⟩
  | cons word words ih =>
    rw [List.cons_append] at h
    cases h with
    | close _ h =>
      obtain ⟨t, u, rfl, ht, hu⟩ := ih h
      exact ⟨word ++ t, u, (List.append_assoc word t u).symm, .close word ht, hu⟩
    | apart _ h =>
      obtain ⟨t, u, rfl, ht, hu⟩ := ih h
      exact ⟨' ' :: (word ++ t), u, by rw [List.cons_append, List.append_assoc], .apart word ht, hu⟩

/-- Without spaces the words are left. -/
theorem filter_eq (h : Spaced words s) (hwords : ∀ word ∈ words, ' ' ∉ word) :
    s.filter (· ≠ ' ') = words.flatten := by
  induction h with
  | nil => rfl
  | close word _ ih =>
    obtain ⟨hword, hrest⟩ := List.forall_mem_cons.1 hwords
    rw [List.filter_append, filter_ne_space hword, ih hrest, List.flatten_cons]
  | apart word _ ih =>
    obtain ⟨hword, hrest⟩ := List.forall_mem_cons.1 hwords
    rw [List.filter_cons_of_neg (by decide), List.filter_append, filter_ne_space hword, ih hrest,
      List.flatten_cons]

/-- No text has fewer characters than words, none of them empty. -/
theorem length_le (h : Spaced words s) (hwords : ∀ word ∈ words, word ≠ []) :
    words.length ≤ s.length := by
  induction h with
  | nil => exact Nat.le_refl 0
  | close word _ ih | apart word _ ih =>
    obtain ⟨hword, hrest⟩ := List.forall_mem_cons.1 hwords
    have hlt := List.length_pos_iff.2 hword
    have hle := ih hrest
    simp only [List.length_cons, List.length_append]
    omega

end Spaced

/-! ## The form of account numbers -/

/-- The parts of an account number. -/
structure Account where
  country : List Char
  check : List Char
  bank : List Char
  groups : List (List Char)
  last : List Char
  country_mem : country ∈ wordsOf 2 isCapital
  check_mem : check ∈ wordsOf 2 Char.isDigit
  bank_mem : bank ∈ wordsOf 4 fun c => isCapital c || c.isDigit
  groups_mem : ∀ group ∈ groups, group ∈ wordsOf 4 Char.isDigit
  groups_ne_nil : groups ≠ []
  last_mem : last ∈ wordsUpTo 4 Char.isDigit
  last_ne_nil : last ≠ []

namespace Account

/-- The parts before which a space may stand. -/
def words (a : Account) : List (List Char) := a.bank :: (a.groups ++ [a.last])

/-- A text is made of the parts of an account number. -/
def IsWritten (a : Account) (s : List Char) : Prop :=
  ∃ rest, s = a.country ++ (a.check ++ rest) ∧ Spaced a.words rest

/-- A word of characters that a class admits has no space in it unless the class admits it. -/
theorem space_notMem {w : List Char} {p : Char → Bool} (hp : p ' ' = false) (h : ∀ c ∈ w, p c = true) :
    ' ' ∉ w :=
  fun hspace => Bool.false_ne_true (hp.symm.trans (h ' ' hspace))

/-- No part of an account number holds a space. -/
theorem space_notMem_words (a : Account) : ∀ word ∈ a.words, ' ' ∉ word := by
  rw [words, List.forall_mem_cons, List.forall_mem_append, List.forall_mem_singleton]
  exact ⟨space_notMem rfl a.bank_mem.2, fun group hgroup => space_notMem rfl (a.groups_mem group hgroup).2,
    space_notMem rfl a.last_mem.2⟩

/-- Without spaces an account number consists of its parts. -/
theorem IsWritten.filter_eq {a : Account} {s : List Char} (h : a.IsWritten s) :
    s.filter (· ≠ ' ') = a.country ++ (a.check ++ a.words.flatten) := by
  obtain ⟨rest, rfl, hspaced⟩ := h
  rw [List.filter_append, List.filter_append, hspaced.filter_eq a.space_notMem_words,
    filter_ne_space (space_notMem rfl a.country_mem.2), filter_ne_space (space_notMem rfl a.check_mem.2)]

/-- Without its spaces, the account number is still written. -/
theorem IsWritten.filter {a : Account} {s : List Char} (h : a.IsWritten s) :
    a.IsWritten (s.filter (· ≠ ' ')) :=
  ⟨a.words.flatten, h.filter_eq, .flatten a.words⟩

end Account

section
variable {s : List Char} {fuel : Nat}

/-- At most one space. -/
theorem mem_one_add_space {gap : List Char} :
    gap ∈ 1 + wordsOf 1 (· == ' ') ↔ gap = [] ∨ gap = [' '] := by
  rw [Language.mem_add, Language.mem_one, mem_wordsOf_one]
  simp

/-- Words after a gap. -/
theorem Spaced.cons {words : List (List Char)} {gap : List Char} (word : List Char)
    (hgap : gap ∈ 1 + wordsOf 1 (· == ' ')) (h : Spaced words s) :
    Spaced (word :: words) (gap ++ (word ++ s)) := by
  rcases mem_one_add_space.1 hgap with rfl | rfl
  · exact .close word h
  · exact .apart word h

/-- What stands before the first word is nothing or one space. -/
theorem Spaced.exists_cons {words : List (List Char)} {word : List Char}
    (h : Spaced (word :: words) s) :
    ∃ gap rest, s = gap ++ (word ++ rest) ∧ gap ∈ 1 + wordsOf 1 (· == ' ') ∧ Spaced words rest := by
  cases h with
  | close _ h => exact ⟨[], _, rfl, mem_one_add_space.2 (.inl rfl), h⟩
  | apart _ h => exact ⟨[' '], _, rfl, mem_one_add_space.2 (.inr rfl), h⟩

/-- The shape of a space that may be missing denotes nothing and one space. -/
theorem spaceOpt_denotes : spaceOpt.Denotes (1 + wordsOf 1 (· == ' ')) := Shape.one_denotes.opt

/-- Groups of four digits with single spaces before them, at least one group and at most so many. -/
def spacedGroups (most : Nat) : Language Char :=
  {s | ∃ groups : List (List Char), groups ≠ [] ∧ groups.length ≤ most ∧
    (∀ group ∈ groups, group ∈ wordsOf 4 Char.isDigit) ∧ Spaced groups s}

/-- One group of four digits, with a space before it or not, and then perhaps more of them. -/
theorem spacedGroups_succ : spacedGroups (fuel + 1) =
    (1 + wordsOf 1 (· == ' ')) * wordsOf 4 Char.isDigit * (1 + spacedGroups fuel) := by
  ext s
  constructor
  · rintro ⟨groups, hne, hlength, hgroups, hs⟩
    obtain ⟨group, groups, rfl⟩ := List.exists_cons_of_ne_nil hne
    obtain ⟨hgroup, hrest⟩ := List.forall_mem_cons.1 hgroups
    obtain ⟨gap, rest, rfl, hgap, hspaced⟩ := hs.exists_cons
    refine Language.mem_mul.2 ⟨gap ++ group, Language.mem_mul.2 ⟨gap, hgap, group, hgroup, rfl⟩, rest, ?_,
      List.append_assoc gap group rest⟩
    cases groups with
    | nil =>
      cases hspaced
      exact .inl rfl
    | cons next groups =>
      exact .inr ⟨next :: groups, by simp, Nat.le_of_succ_le_succ hlength, hrest, hspaced⟩
  · intro h
    obtain ⟨_, hfirst, rest, hrest, rfl⟩ := Language.mem_mul.1 h
    obtain ⟨gap, hgap, group, hgroup, rfl⟩ := Language.mem_mul.1 hfirst
    rw [List.append_assoc]
    rcases hrest with hrest | ⟨groups, -, hlength, hgroups, hspaced⟩
    · obtain rfl := (Language.mem_one _).1 hrest
      exact ⟨[group], by simp, by simp, List.forall_mem_singleton.2 hgroup, .cons group hgap .nil⟩
    · exact ⟨group :: groups, by simp, Nat.succ_le_succ hlength, List.forall_mem_cons.2 ⟨hgroup, hgroups⟩,
        .cons group hgap hspaced⟩

/-- The shape of the groups denotes up to `fuel` of them. -/
theorem digitGroups_denotes : (digitGroups fuel).Denotes (spacedGroups fuel) := by
  induction fuel with
  | zero =>
    intro s rest
    constructor
    · intro h
      cases h
    · rintro ⟨w, ⟨groups, hne, hlength, -⟩, -⟩
      exact absurd (List.length_eq_zero_iff.1 (Nat.le_zero.1 hlength)) hne
  | succ fuel ih =>
    rw [spacedGroups_succ]
    exact (spaceOpt_denotes.andThen Shape.times_one_denotes).andThen ih.opt

/-- **The form of account numbers**: a text has it if it is made of the parts of one. -/
theorem fits_ibanShape_iff :
    (ibanShape s.length).fits s = true ↔ ∃ a : Account, a.IsWritten s := by
  have hshape : (ibanShape s.length).Denotes _ := Shape.all_denotes <|
    .cons Shape.times_one_denotes <| .cons Shape.times_one_denotes <| .cons spaceOpt_denotes <|
    .cons Shape.times_one_denotes <| .cons digitGroups_denotes <| .cons spaceOpt_denotes <|
    .cons Shape.one_denotes <| .cons Shape.upTo_one_denotes .nil
  rw [hshape.fits_iff, mem_prod_iff]
  constructor
  · rintro ⟨_, _ | ⟨hcountry, _ | ⟨hcheck, _ | ⟨hgap, _ | ⟨hbank, _ | ⟨⟨groups, hne, -, hgroups, hspaced⟩,
      _ | ⟨hgap', _ | ⟨hfirst, _ | ⟨hmore, _ | _⟩⟩⟩⟩⟩⟩⟩⟩, hs⟩
    obtain ⟨d, -, rfl⟩ := mem_wordsOf_one.1 hfirst
    -- The shape matches the first digit of the last part by itself.
    have hlast := (mem_wordsUpTo_succ_iff (List.cons_ne_nil d _)).2
      (Language.mem_mul.2 ⟨[d], hfirst, _, hmore, rfl⟩)
    refine ⟨⟨_, _, _, groups, _, hcountry, hcheck, hbank, hgroups, hne, hlast, List.cons_ne_nil d _⟩, _, ?_,
      .cons _ hgap (hspaced.append (.cons _ hgap' .nil))⟩
    simpa using hs.symm
  · rintro ⟨a, rest, hs, hspaced⟩
    obtain ⟨gap, rest, rfl, hgap, hspaced⟩ := hspaced.exists_cons
    obtain ⟨groupsText, rest, rfl, hgroups, hspaced⟩ := hspaced.exists_append
    obtain ⟨gap', rest, rfl, hgap', hspaced⟩ := hspaced.exists_cons
    cases hspaced
    obtain ⟨first, hfirst, more, hmore, hlast⟩ :=
      Language.mem_mul.1 ((mem_wordsUpTo_succ_iff a.last_ne_nil).1 a.last_mem)
    -- No group is empty, so there are not more of them than the shape allows.
    have hcount : a.groups.length ≤ s.length := by
      have hle := hgroups.length_le fun group hgroup hnil => by
        obtain ⟨hlength, -⟩ := a.groups_mem group hgroup
        rw [hnil] at hlength
        cases hlength
      simp only [hs, List.length_append]
      omega
    refine ⟨[a.country, a.check, gap, a.bank, groupsText, gap', first, more],
      .cons a.country_mem <| .cons a.check_mem <| .cons hgap <| .cons a.bank_mem <|
      .cons ⟨a.groups, a.groups_ne_nil, hcount, a.groups_mem, hgroups⟩ <| .cons hgap' <|
      .cons hfirst <| .cons hmore .nil, ?_⟩
    simp [hs, ← hlast]

end

/-! ## Groups of four -/

/-- A text with a space after every fourth character but none at its end. -/
def inFours : List Char → List Char
  | a :: b :: c :: d :: e :: rest => a :: b :: c :: d :: ' ' :: inFours (e :: rest)
  | s => s

section
variable {s t : List Char}

/-- A first word of four characters is set apart from the rest. -/
theorem inFours_append {word : List Char} (hword : word.length = 4) (hs : s ≠ []) :
    inFours (word ++ s) = word ++ ' ' :: inFours s := by
  obtain ⟨e, rest, rfl⟩ := List.exists_cons_of_ne_nil hs
  match word, hword with
  | [a, b, c, d], _ => rfl

/-- Four characters or fewer need no space. -/
theorem inFours_of_length_le (h : s.length ≤ 4) : inFours s = s := by
  match s, h with
  | [], _ | [_], _ | [_, _], _ | [_, _, _], _ | [_, _, _, _], _ => rfl

/-- Setting a text in fours adds spaces only. -/
theorem filter_inFours : (inFours s).filter (· ≠ ' ') = s.filter (· ≠ ' ') := by
  fun_induction inFours s with
  | case1 a b c d e rest ih => simp only [List.filter_cons, ih]; simp
  | case2 s => rfl

/-- Spaces come between words of four characters. -/
theorem inFours_flatten {head last : List Char} {words : List (List Char)} (hhead : head.length = 4)
    (hwords : ∀ word ∈ words, word.length = 4) (hne : last ≠ []) (hlast : last.length ≤ 4) :
    inFours (head ++ (words ++ [last]).flatten) = head ++ (words ++ [last]).flatMap (' ' :: ·) := by
  induction words generalizing head with
  | nil => simp [inFours_append hhead hne, inFours_of_length_le hlast]
  | cons word words ih =>
    obtain ⟨hword, hwords⟩ := List.forall_mem_cons.1 hwords
    rw [List.cons_append, List.flatten_cons, inFours_append hhead (by simp [← List.length_pos_iff, hword]),
      ih hword hwords, List.flatMap_cons, List.cons_append]

/-- An account number that is written without spaces may be set in fours: the country code and the check
digits are four characters, and so is every part after them but the last, so each space falls between parts. -/
theorem Account.IsWritten.inFours {a : Account} (h : a.IsWritten s) (hs : ' ' ∉ s) :
    a.IsWritten (Check.inFours s) := by
  have hfours : ∀ word ∈ a.bank :: a.groups, word.length = 4 :=
    List.forall_mem_cons.2 ⟨a.bank_mem.1, fun group hgroup => (a.groups_mem group hgroup).1⟩
  have hhead : (a.country ++ a.check).length = 4 := by
    rw [List.length_append, a.country_mem.1, a.check_mem.1]
  refine ⟨a.words.flatMap (' ' :: ·), ?_, .flatMap a.words⟩
  rw [← filter_ne_space hs, h.filter_eq, ← List.append_assoc, ← List.append_assoc]
  exact inFours_flatten hhead hfours a.last_ne_nil a.last_mem.1

/-- A text has the form of an account number exactly if it has it in groups of four. -/
theorem exists_isWritten_inFours (hs : ' ' ∉ s) :
    (∃ a : Account, a.IsWritten (inFours s)) ↔ ∃ a : Account, a.IsWritten s := by
  constructor
  · rintro ⟨a, ha⟩
    have hfilter := ha.filter
    rw [filter_inFours, filter_ne_space hs] at hfilter
    exact ⟨a, hfilter⟩
  · rintro ⟨a, ha⟩
    exact ⟨a, ha.inFours hs⟩

/-! ## The number -/

/-- A character stands for two digits at most. -/
theorem length_ibanDigits_le (c : Char) : (ibanDigits c).length ≤ 2 := by
  rw [ibanDigits]
  split <;> simp

/-- A text stands for at most twice as many digits as it has characters. -/
theorem length_flatMap_ibanDigits_le : (s.flatMap ibanDigits).length ≤ 2 * s.length := by
  induction s with
  | nil => exact Nat.le_refl 0
  | cons c rest ih =>
    rw [List.flatMap_cons, List.length_append, List.length_cons]
    have hc := length_ibanDigits_le c
    omega

/-- Digits stand for themselves. -/
theorem flatMap_ibanDigits (h : ∀ c ∈ s, c.isDigit = true) :
    s.flatMap ibanDigits = s.map digitValue := by
  rw [← List.flatMap_pure_eq_map]
  exact List.flatMap_congr fun c hc => if_pos (h c hc)

/-- Moving the first characters to the end does not change how many digits there are. -/
theorem length_ibanNumber :
    (ibanNumber s).length = ((s.filter (· ≠ ' ')).flatMap ibanDigits).length := by
  have hmoved : ((s.filter (· ≠ ' ')).drop 4 ++ (s.filter (· ≠ ' ')).take 4).Perm (s.filter (· ≠ ' ')) :=
    List.perm_append_comm.trans (.of_eq (List.take_append_drop 4 _))
  exact (hmoved.flatMap_right ibanDigits).length_eq

/-- Only the country code and the four characters after the check digits can be letters. -/
theorem Account.IsWritten.length_ibanNumber_le {a : Account} (h : a.IsWritten s) :
    (ibanNumber s).length ≤ s.length + 8 := by
  have hparts : s.filter (· ≠ ' ') = a.country ++ (a.check ++ a.bank) ++ (a.groups.flatten ++ a.last) := by
    rw [h.filter_eq]
    simp [words]
  have hfront : (a.country ++ (a.check ++ a.bank)).length = 8 := by
    rw [List.length_append, List.length_append, a.country_mem.1, a.check_mem.1, a.bank_mem.1]
  have hdigits : ∀ c ∈ a.groups.flatten ++ a.last, c.isDigit = true := by
    rw [List.forall_mem_append, List.forall_mem_flatten]
    exact ⟨fun group hgroup => (a.groups_mem group hgroup).2, a.last_mem.2⟩
  have hcount : (s.filter (· ≠ ' ')).length ≤ s.length := List.length_filter_le _ s
  have hle := length_flatMap_ibanDigits_le (s := a.country ++ (a.check ++ a.bank))
  rw [length_ibanNumber, hparts, List.flatMap_append, List.length_append, flatMap_ibanDigits hdigits,
    List.length_map]
  rw [hparts, List.length_append] at hcount
  omega

/-! ## The answer -/

/-- An answer depends on the form and on the characters other than spaces. -/
theorem isIban_congr (hfits : (ibanShape s.length).fits s = (ibanShape t.length).fits t)
    (hcompact : s.filter (· ≠ ' ') = t.filter (· ≠ ' ')) : isIban s = isIban t := by
  have hnumber : ibanNumber s = ibanNumber t := by rw [ibanNumber, ibanNumber, hcompact]
  rw [isIban, isIban, hfits, hnumber]

/-- Setting a text without spaces in fours does not change the answer. -/
theorem isIban_inFours (hs : ' ' ∉ s) : isIban (inFours s) = isIban s := by
  refine isIban_congr (Bool.eq_iff_iff.2 ?_) filter_inFours
  rw [fits_ibanShape_iff, fits_ibanShape_iff, exists_isWritten_inFours hs]

/-- Nor does taking the spaces out of a text that has the form. -/
theorem isIban_filter (h : (ibanShape s.length).fits s = true) :
    isIban (s.filter (· ≠ ' ')) = isIban s := by
  obtain ⟨a, ha⟩ := fits_ibanShape_iff.1 h
  refine isIban_congr ?_ (by simp)
  rw [h, fits_ibanShape_iff]
  exact ⟨a, ha.filter⟩

/-- The number of a text that is not too long can be computed. -/
theorem exists_isIban (h : s.length + 8 ≤ Number.digitLimit) : ∃ valid, isIban s = .ok valid := by
  rw [isIban]
  split
  · next hfits =>
    obtain ⟨a, ha⟩ := fits_ibanShape_iff.1 hfits
    exact ⟨_, if_neg (Nat.not_lt.2 (Nat.le_trans ha.length_ibanNumber_le h))⟩
  · exact ⟨false, rfl⟩

/-- The three things that are asked of an account number: its form, a number that can be read at
all, and the remainder one. -/
theorem isIban_eq_true_iff : isIban s = .ok true ↔ (ibanShape s.length).fits s = true ∧
    (ibanNumber s).length ≤ Number.digitLimit ∧ remainder97 (ibanNumber s) = 1 := by
  rw [isIban]
  split
  · next hfits =>
    dsimp only
    split
    · next hlimit => simp [hfits, Nat.not_le.2 hlimit]
    · next hlimit => simp [hfits, Nat.le_of_not_lt hlimit]
  · next hfits => simp [hfits]

/-- A number that can be read and leaves another remainder is refused. -/
theorem isIban_eq_false (hlimit : (ibanNumber s).length ≤ Number.digitLimit)
    (hremainder : remainder97 (ibanNumber s) ≠ 1) : isIban s = .ok false := by
  rw [isIban]
  split
  · exact (if_neg (Nat.not_lt.2 hlimit)).trans (by simp [hremainder])
  · rfl

end

/-- **Printed and electronic form agree**: a text without spaces is an account number exactly if it is one
in groups of four, and an account number without its spaces is one. -/
theorem isIban_forms :
    (∀ s, ' ' ∉ s →
      isIban (inFours s) = isIban s ∧ (s.length ≤ 4000 → ∃ valid, isIban s = .ok valid)) ∧
    ∀ s, isIban s = .ok true → isIban (s.filter (· ≠ ' ')) = .ok true :=
  ⟨fun _ hs => ⟨isIban_inFours hs, fun hlength =>
      exists_isIban (Nat.le_trans (Nat.add_le_add_right hlength 8) (by decide))⟩,
    fun _ h => (isIban_filter (isIban_eq_true_iff.1 h).1).trans h⟩

/-- An account number on paper, in both forms. -/
theorem isIban_forms_printed :
    isIban "GB82WEST12345698765432".toList = .ok true ∧
      isIban "GB82 WEST 1234 5698 7654 32".toList = .ok true := by
  have hcompact : "GB82 WEST 1234 5698 7654 32".toList.filter (· ≠ ' ') =
      "GB82WEST12345698765432".toList := by decide
  have hfours : inFours "GB82WEST12345698765432".toList = "GB82 WEST 1234 5698 7654 32".toList := by
    decide
  have hprinted : isIban "GB82 WEST 1234 5698 7654 32".toList = .ok true :=
    isIban_eq_true_iff.2 (by decide +kernel)
  have helectronic := isIban_forms.2 _ hprinted
  rw [hcompact] at helectronic
  have hforms := (isIban_forms.1 "GB82WEST12345698765432".toList (by decide)).1
  rw [hfours, helectronic] at hforms
  exact ⟨helectronic, hforms⟩

/-! ## The remainder -/

section
variable {ds es : List Nat}

/-- Taking remainders at each digit gives the remainder of the whole number. -/
theorem remainder97_eq : remainder97 ds = Number.ofDigits ds % 97 := by
  induction ds using List.reverseRecOn with
  | nil => rfl
  | append_singleton ds d ih =>
    have hstep : remainder97 (ds ++ [d]) = (10 * remainder97 ds + d) % 97 := List.foldl_concat ..
    rw [hstep, ih, Number.ofDigits_concat]
    omega

/-- If digits can be exchanged for as many others without a change of the remainder, the remainders of
the exchanged digits are equal: 97 divides no power of ten. -/
theorem remainder97_of_exchange {front back : List Nat} (hlength : ds.length = es.length)
    (h : remainder97 (front ++ (ds ++ back)) = remainder97 (front ++ (es ++ back))) :
    remainder97 ds = remainder97 es := by
  have hcoprime : Nat.gcd 97 (10 ^ back.length) = 1 := Nat.Coprime.pow_right _ (by decide)
  simp only [remainder97_eq, Number.ofDigits_append, List.length_append, hlength] at h ⊢
  have hsum := Nat.ModEq.add_left_cancel' _ h
  exact Nat.ModEq.cancel_right_of_coprime hcoprime (Nat.ModEq.add_right_cancel' _ hsum)

end

/-! ## One character exchanged -/

/-- Two digits or two capitals. -/
def SameKind (c d : Char) : Prop :=
  c.isDigit = true ∧ d.isDigit = true ∨ isCapital c = true ∧ isCapital d = true

section
variable {c d : Char} {before after : List Char}

/-- A digit stands for itself. -/
theorem ibanDigits_of_isDigit (h : c.isDigit = true) : ibanDigits c = [digitValue c] := if_pos h

/-- The code points of the capitals. -/
theorem toNat_of_isCapital (h : isCapital c = true) : 65 ≤ c.toNat ∧ c.toNat ≤ 90 :=
  have hrange : 'A' ≤ c ∧ c ≤ 'Z' := of_decide_eq_true h
  hrange

/-- A capital stands for the two digits of its place in the alphabet plus nine. -/
theorem ibanDigits_of_isCapital (h : isCapital c = true) :
    ibanDigits c = [(c.toNat - 55) / 10, (c.toNat - 55) % 10] := by
  have hrange := toNat_of_isCapital h
  have hdigit : ¬ c.isDigit = true := by
    rw [Char.isDigit_iff_toNat]
    show ¬ (48 ≤ c.toNat ∧ c.toNat ≤ 57)
    omega
  exact if_neg hdigit

/-- The remainder that a digit alone leaves. -/
theorem remainder97_ibanDigits_of_isDigit (h : c.isDigit = true) :
    remainder97 (ibanDigits c) = digitValue c := by
  have hlt := digitValue_lt h
  rw [ibanDigits_of_isDigit h, remainder97_eq]
  show (10 * 0 + digitValue c) % 97 = digitValue c
  omega

/-- The remainder that a capital alone leaves: its number, at most 35. -/
theorem remainder97_ibanDigits_of_isCapital (h : isCapital c = true) :
    remainder97 (ibanDigits c) = c.toNat - 55 := by
  have hrange := toNat_of_isCapital h
  rw [ibanDigits_of_isCapital h, remainder97_eq]
  show (10 * (10 * 0 + (c.toNat - 55) / 10) + (c.toNat - 55) % 10) % 97 = c.toNat - 55
  omega

/-- Characters of one kind stand for equally many digits, so an exchange shifts no digit after
them. -/
theorem SameKind.length_ibanDigits (h : SameKind c d) : (ibanDigits c).length = (ibanDigits d).length := by
  rcases h with ⟨hc, hd⟩ | ⟨hc, hd⟩
  · rw [ibanDigits_of_isDigit hc, ibanDigits_of_isDigit hd]
    rfl
  · rw [ibanDigits_of_isCapital hc, ibanDigits_of_isCapital hd]
    rfl

/-- A character of a kind is known by its remainder. -/
theorem SameKind.eq_of_remainder97 (h : SameKind c d)
    (heq : remainder97 (ibanDigits c) = remainder97 (ibanDigits d)) : c = d := by
  rcases h with ⟨hc, hd⟩ | ⟨hc, hd⟩
  · rw [remainder97_ibanDigits_of_isDigit hc, remainder97_ibanDigits_of_isDigit hd] at heq
    exact (digitValue_inj hc hd).1 heq
  · rw [remainder97_ibanDigits_of_isCapital hc, remainder97_ibanDigits_of_isCapital hd] at heq
    have hrange := toNat_of_isCapital hc
    have hrange' := toNat_of_isCapital hd
    exact Char.toNat_inj.1 (by omega)

/-- Neither of two characters of one kind is a space. -/
theorem SameKind.ne_space (h : SameKind c d) : c ≠ ' ' ∧ d ≠ ' ' := by
  constructor <;> rintro rfl <;> rcases h with ⟨hc, hd⟩ | ⟨hc, hd⟩ <;> first | cases hc | cases hd

/-- Where a character stands in a text tells where it stands after the first characters were moved to the
end. -/
theorem exists_moved (n : Nat) (before after : List Char) :
    ∃ front back, ∀ c, (before ++ c :: after).drop n ++ (before ++ c :: after).take n = front ++ c :: back := by
  rcases Nat.lt_or_ge before.length n with h | h
  · obtain ⟨k, rfl⟩ := Nat.exists_eq_add_of_lt h
    refine ⟨after.drop k ++ before, after.take k, fun c => ?_⟩
    rw [Nat.add_assoc, List.drop_length_add_append, List.take_length_add_append]
    simp
  · refine ⟨before.drop n, after ++ before.take n, fun c => ?_⟩
    rw [List.drop_append_of_le_length h, List.take_append_of_le_length h]
    simp

/-- The digits of a character stand in one block, wherever the other digits come from. -/
theorem exists_ibanNumber (before after : List Char) :
    ∃ front back, ∀ c, c ≠ ' ' →
      ibanNumber (before ++ c :: after) = front ++ (ibanDigits c ++ back) := by
  obtain ⟨front, back, hmoved⟩ := exists_moved 4 (before.filter (· ≠ ' ')) (after.filter (· ≠ ' '))
  refine ⟨front.flatMap ibanDigits, back.flatMap ibanDigits, fun c hc => ?_⟩
  have hcompact : (before ++ c :: after).filter (· ≠ ' ') =
      before.filter (· ≠ ' ') ++ c :: after.filter (· ≠ ' ') := by
    rw [List.filter_append, List.filter_cons_of_pos (by simpa using hc)]
  rw [ibanNumber, hcompact, hmoved, List.flatMap_append, List.flatMap_cons]

/-- **A wrong character is noticed**: an account number with one digit exchanged for another one, or one
capital for another one, is refused. -/
theorem isIban_detects (hkind : SameKind c d) (hne : c ≠ d)
    (hvalid : isIban (before ++ c :: after) = .ok true) : isIban (before ++ d :: after) = .ok false := by
  obtain ⟨front, back, hnumber⟩ := exists_ibanNumber before after
  obtain ⟨hc, hd⟩ := hkind.ne_space
  have hlength : (ibanNumber (before ++ d :: after)).length = (ibanNumber (before ++ c :: after)).length := by
    simp only [hnumber c hc, hnumber d hd, List.length_append, hkind.length_ibanDigits]
  have hremainder : remainder97 (ibanNumber (before ++ d :: after)) ≠
      remainder97 (ibanNumber (before ++ c :: after)) := fun heq => by
    rw [hnumber c hc, hnumber d hd] at heq
    exact hne (hkind.eq_of_remainder97 (remainder97_of_exchange hkind.length_ibanDigits heq.symm))
  obtain ⟨-, hlimit, hone⟩ := isIban_eq_true_iff.1 hvalid
  exact isIban_eq_false (hlength ▸ hlimit) (hone ▸ hremainder)

/-- A wrong letter in the bank code, then a wrong last digit. -/
theorem isIban_detects_errors :
    isIban ("GB82 ".toList ++ 'W' :: "EST 1234 5698 7654 32".toList) = .ok true ∧
      isIban ("GB82 ".toList ++ 'B' :: "EST 1234 5698 7654 32".toList) = .ok false ∧
      isIban ("GB82 WEST 1234 5698 7654 3".toList ++ ['2']) = .ok true ∧
      isIban ("GB82 WEST 1234 5698 7654 3".toList ++ ['3']) = .ok false := by
  have hbank : isIban ("GB82 ".toList ++ 'W' :: "EST 1234 5698 7654 32".toList) = .ok true :=
    isIban_eq_true_iff.2 (by decide +kernel)
  have hlast : isIban ("GB82 WEST 1234 5698 7654 3".toList ++ ['2']) = .ok true :=
    isIban_eq_true_iff.2 (by decide +kernel)
  exact ⟨hbank, isIban_detects (.inr ⟨rfl, rfl⟩) (by decide) hbank, hlast,
    isIban_detects (.inl ⟨rfl, rfl⟩) (by decide) hlast⟩

end

end RecordRules.Check
