import Mathlib
import RecordRules.Proofs.Text.Split
import RecordRules.Proofs.Text.Trim
import RecordRules.Text.Case

/-!
# Lower case of the parts of a text

A text is not lowered character by character, since a capital sigma is lowered in view of the letters
around it (`meetsCased`). White space and semicolons end that view: what stands before and after such a
character can be lowered by itself (`IsBoundary.lowercase_append`). Apostrophes are passed over, and so
make no difference at the ends of a text (`IsPassedOver.lowercase_between`). So lowering a text and
splitting it at semicolons (`splitAll_lowercase`) or trimming it (`trim_lowercase`) can be done in either
order. What has been lowered stays as it is, and so does each part of it, also when ASCII letters in it are
put into capitals first (`lowercase_of_map_toLower_eq`).
-/

namespace RecordRules.Text

/-! ## Code points -/

section
variable {runs : List CaseRun} {run other : CaseRun} {ranges : Ranges} {n m : Nat}

/-- All code points of a set have a property. -/
def Ranges.every (ranges : Ranges) (p : Nat → Bool) : Bool :=
  ranges.all fun r => (List.range' r.1 (r.2 + 1 - r.1)).all p

/-- A property is checked for each code point of each range. -/
theorem Ranges.every_iff {p : Nat → Bool} :
    ranges.every p = true ↔ ∀ r ∈ ranges, ∀ {n}, r.1 ≤ n → n ≤ r.2 → p n = true := by
  simp only [every, List.all_eq_true]
  refine forall₂_congr fun r _ => ⟨fun h n hlo hhi => h n ?_, fun h n hn => ?_⟩
  · exact List.mem_range'_1.2 (by omega)
  · rw [List.mem_range'_1] at hn
    exact h hn.1 (by omega)

/-- What holds of every code point of a set holds of each one that the set has. -/
theorem Ranges.of_every {p : Nat → Bool} (h : ranges.every p = true) (hhas : ranges.has n = true) :
    p n = true := by
  obtain ⟨r, hr, hlo, hhi⟩ := exists_of_has hhas
  exact every_iff.1 h r hr hlo hhi

/-- A run gives a lower-case form to a code point. -/
def CaseRun.Maps (run : CaseRun) (n : Nat) : Prop :=
  run.first ≤ n ∧ n ≤ run.last ∧ (n - run.first) % run.step = 0

/-- A lower-case form that is found comes from a run. -/
theorem CaseRun.exists_of_find? (h : find? runs n = some m) :
    ∃ run ∈ runs, run.Maps n ∧ m = run.target + (n - run.first) := by
  induction runs with
  | nil => cases h
  | cons run runs ih =>
    rw [find?] at h
    split at h
    · cases h
    · next hfirst =>
      split at h
      · next hmaps =>
        rw [Bool.and_eq_true, decide_eq_true_eq, beq_iff_eq] at hmaps
        exact ⟨run, List.mem_cons_self, ⟨Nat.le_of_not_lt hfirst, hmaps⟩, (Option.some.inj h).symm⟩
      · obtain ⟨run, hrun, hmaps⟩ := ih h
        exact ⟨run, List.mem_cons_of_mem _ hrun, hmaps⟩

/-- A code point either stays as it is or goes where one of the runs says. -/
theorem lowerCode_cases (n : Nat) : lowerCode n = n ∨
    ∃ run ∈ lowerRuns, run.Maps n ∧ lowerCode n = run.target + (n - run.first) := by
  rw [lowerCode]
  cases h : CaseRun.find? lowerRuns n with
  | none => exact .inl rfl
  | some m => exact .inr (CaseRun.exists_of_find? h)

/-- A run maps none of the code points to which another one goes: it lies before or after them, or it maps
every other code point and they are those between. -/
def CaseRun.misses (run other : CaseRun) : Bool :=
  Nat.blt run.last other.target || Nat.blt (other.target + (other.last - other.first)) run.first ||
    (Nat.beq (other.step % 2) 0 || Nat.beq other.first other.last) && Nat.beq run.step 2 &&
      Nat.beq ((other.target + run.first) % 2) 1

/-- Where a run leads to, one that misses it leads no further. -/
theorem CaseRun.not_maps_of_misses (h : run.misses other = true) (hmaps : other.Maps n) :
    ¬run.Maps (other.target + (n - other.first)) := by
  obtain ⟨hfirst, hlast, hstep⟩ := hmaps
  rintro ⟨hfirst', hlast', hstep'⟩
  simp only [misses, Bool.or_eq_true, Bool.and_eq_true, Nat.blt_eq, Nat.beq_eq] at h
  rcases h with (hbefore | hafter) | ⟨⟨hother, htwo⟩, hodd⟩
  · omega
  · omega
  · have heven : (n - other.first) % 2 = 0 := by
      rcases hother with heven | hone
      · exact Nat.mod_eq_zero_of_dvd
          (Nat.dvd_trans (Nat.dvd_of_mod_eq_zero heven) (Nat.dvd_of_mod_eq_zero hstep))
      · omega
    rw [htwo] at hstep'
    omega

/-- No run of the table leads into another one. -/
theorem lowerRuns_miss :
    (lowerRuns.all fun run => lowerRuns.all fun other => run.misses other) = true := by
  decide +kernel

/-- A lower-case form has no other lower-case form. -/
theorem lowerCode_lowerCode (n : Nat) : lowerCode (lowerCode n) = lowerCode n := by
  rcases lowerCode_cases n with hn | ⟨other, hother, hmaps, hn⟩
  · rw [hn, hn]
  · rcases lowerCode_cases (lowerCode n) with hagain | ⟨run, hrun, hmaps', -⟩
    · exact hagain
    · have hmiss := List.all_eq_true.1 (List.all_eq_true.1 lowerRuns_miss run hrun) other hother
      rw [hn] at hmaps'
      exact absurd hmaps' (CaseRun.not_maps_of_misses hmiss hmaps)

/-- Lower-case forms are not among the characters of a set: neither those in the runs, nor the parts of
the longer ones. -/
def Ranges.isUnmade (ranges : Ranges) : Bool :=
  (lowerRuns.all fun run => ranges.all fun r =>
    Nat.blt r.2 run.target || Nat.blt (run.target + (run.last - run.first)) r.1) &&
    ['\x00', 'σ', 'ς', 'i', '\u0307'].all fun c => !ranges.has c.toNat

/-- White space is the lower-case form of white space only. -/
theorem Ranges.isUnmade_blanks : blanks.isUnmade = true := by decide +kernel

/-- Only a character of such a set has one of them as its lower-case form. -/
theorem Ranges.has_of_mem_lowerChar {before after : List Char} {c d : Char}
    (hunmade : ranges.isUnmade = true) (hd : d ∈ lowerChar before c after)
    (hhas : ranges.has d.toNat = true) : ranges.has c.toNat = true := by
  rw [isUnmade, Bool.and_eq_true] at hunmade
  obtain ⟨hruns, hspecial⟩ := hunmade
  have hnot : d ∉ ['\x00', 'σ', 'ς', 'i', '\u0307'] := by
    intro hmem
    have hmissing := List.all_eq_true.1 hspecial d hmem
    rw [hhas] at hmissing
    cases hmissing
  simp only [List.mem_cons, List.not_mem_nil, or_false, not_or] at hnot
  rw [lowerChar] at hd
  split at hd
  · split at hd <;> simp_all
  · split at hd
    · simp_all
    · obtain rfl := List.mem_singleton.1 hd
      rw [Char.toNat_ofNat] at hhas
      split at hhas
      · rcases lowerCode_cases c.toNat with hsame | ⟨run, hrun, ⟨hfirst, hlast, -⟩, hform⟩
        · rwa [hsame] at hhas
        · have hfalse := has_eq_false (List.all_eq_true.1 hruns run hrun)
            (Nat.le_add_right run.target (c.toNat - run.first)) (by omega)
          rw [hform, hfalse] at hhas
          cases hhas
      · next hinvalid =>
        refine absurd ?_ hnot.1
        rw [← Char.toNat_inj, Char.toNat_ofNat, if_neg hinvalid]
        rfl

end

/-! ## Characters that stay as they are -/

section
variable {before after s t : List Char} {c d : Char}

/-- A character that is its own lower-case form. -/
def IsLowered (c : Char) : Prop := lowerCode c.toNat = c.toNat

instance : DecidablePred IsLowered := fun c =>
  inferInstanceAs (Decidable (lowerCode c.toNat = c.toNat))

/-- A character that is its own lower-case form is lowered to itself in every place. -/
theorem IsLowered.lowerChar (h : IsLowered c) : lowerChar before c after = [c] := by
  have hsigma : c ≠ 'Σ' := by
    rintro rfl
    exact absurd h (by decide)
  have hdotted : c ≠ 'İ' := by
    rintro rfl
    exact absurd h (by decide)
  rw [Text.lowerChar, if_neg (by simpa using hsigma), if_neg (by simpa using hdotted), h, Char.ofNat_toNat]

/-- What a character is lowered to cannot be lowered further. -/
theorem isLowered_of_mem_lowerChar (h : d ∈ lowerChar before c after) : IsLowered d := by
  rw [lowerChar] at h
  split at h
  · obtain rfl := List.mem_singleton.1 h
    split <;> decide
  · split at h
    · rcases List.mem_cons.1 h with rfl | h
      · decide
      · obtain rfl := List.mem_singleton.1 h
        decide
    · obtain rfl := List.mem_singleton.1 h
      rw [IsLowered, Char.toNat_ofNat]
      split
      · exact lowerCode_lowerCode c.toNat
      · decide

/-- The same after any characters, since none of these is a capital sigma. -/
theorem lowercaseFrom_of_isLowered (h : ∀ c ∈ s, IsLowered c) : lowercaseFrom before s = s := by
  induction s generalizing before with
  | nil => rfl
  | cons c s ih =>
    rw [lowercaseFrom, (h c List.mem_cons_self).lowerChar,
      ih fun d hd => h d (List.mem_cons_of_mem c hd), List.singleton_append]

/-- A text is left alone if all of its characters are their own lower-case forms. -/
theorem lowercase_of_isLowered (h : ∀ c ∈ s, IsLowered c) : lowercase s = s :=
  lowercaseFrom_of_isLowered h

/-- Each character of a lowered text comes from one of the text's characters. -/
theorem exists_of_mem_lowercaseFrom (h : d ∈ lowercaseFrom before s) :
    ∃ c ∈ s, ∃ left right, d ∈ lowerChar left c right := by
  induction s generalizing before with
  | nil => cases h
  | cons c s ih =>
    rw [lowercaseFrom] at h
    rcases List.mem_append.1 h with h | h
    · exact ⟨c, List.mem_cons_self, before, s, h⟩
    · obtain ⟨e, he, hmade⟩ := ih h
      exact ⟨e, List.mem_cons_of_mem c he, hmade⟩

/-- A lowered text holds characters that are their own lower-case forms. -/
theorem isLowered_of_mem_lowercase (h : d ∈ lowercase s) : IsLowered d := by
  obtain ⟨_, -, _, _, hmade⟩ := exists_of_mem_lowercaseFrom h
  exact isLowered_of_mem_lowerChar hmade

end

/-! ## What a sigma sees -/

/-- The first character that counts, going out from a sigma, has a case. -/
def meetsCased (s : List Char) : Bool := (s.dropWhile isCaseIgnorable).head?.any isCased

section
variable {before after s t x x' y y' : List Char} {c d : Char}

/-- A sigma ends a word after a cased character if no cased character follows. -/
theorem endsWord_eq (before after : List Char) :
    endsWord before after = (meetsCased before && !meetsCased after) := rfl

/-- A character in front leaves texts alike that were alike to a sigma. -/
theorem meetsCased_cons (h : meetsCased x = meetsCased y) : meetsCased (d :: x) = meetsCased (d :: y) := by
  rw [meetsCased, meetsCased, List.dropWhile_cons, List.dropWhile_cons]
  split
  · exact h
  · rfl

/-- All that matters of the characters around is whether a cased one is met on either side. -/
theorem lowerChar_congr (hbefore : meetsCased x = meetsCased x') (hafter : meetsCased y = meetsCased y') :
    lowerChar x d y = lowerChar x' d y' := by
  rw [lowerChar, lowerChar, endsWord_eq, endsWord_eq, hbefore, hafter]

/-- What stands before a text counts only as far as a sigma sees it. -/
theorem lowercaseFrom_congr (h : meetsCased x = meetsCased y) : lowercaseFrom x s = lowercaseFrom y s := by
  induction s generalizing x y with
  | nil => rfl
  | cons d s ih => rw [lowercaseFrom, lowercaseFrom, lowerChar_congr h rfl, ih (meetsCased_cons h)]

/-- A text is lowered by itself if a sigma sees the same with what stands after it as without. -/
theorem lowercaseFrom_append (ht : ∀ x, meetsCased (x ++ t) = meetsCased x) :
    lowercaseFrom before (s ++ t) = lowercaseFrom before s ++ lowercaseFrom (s.reverse ++ before) t := by
  induction s generalizing before with
  | nil => rfl
  | cons d s ih =>
    rw [List.cons_append, lowercaseFrom, lowercaseFrom, lowerChar_congr rfl (ht s), ih, List.append_assoc,
      List.reverse_cons, List.append_assoc, List.singleton_append]

end

/-! ## Boundaries -/

/-- A character at which words end: it has no case, is its own lower-case form, and is not passed over
when a sigma looks for the letters around it. -/
structure IsBoundary (c : Char) : Prop where
  isLowered : IsLowered c
  uncased : isCased c = false
  heeded : isCaseIgnorable c = false

/-- A semicolon ends the view of a sigma. -/
theorem isBoundary_semicolon : IsBoundary ';' where
  isLowered := by decide
  uncased := by decide
  heeded := by decide

/-- White space is neither lowered, nor cased, nor passed over. -/
theorem blanks_bound : blanks.every (fun n =>
    lowerCode n == n && !casedRanges.has n && !caseIgnorables.has n) = true := by
  decide +kernel

/-- White space ends the view of a sigma. -/
theorem isBoundary_of_isBlank {c : Char} (h : isBlank c = true) : IsBoundary c := by
  have hbound := Ranges.of_every blanks_bound h
  simp only [Bool.and_eq_true, beq_iff_eq, Bool.not_eq_true'] at hbound
  exact ⟨hbound.1.1, hbound.1.2, hbound.2⟩

namespace IsBoundary

variable {s t x y : List Char} {c : Char}

/-- The first character that counts is looked for up to a boundary. -/
theorem meetsCased_append (hc : IsBoundary c) : meetsCased (x ++ c :: y) = meetsCased x := by
  induction x with
  | nil => simp [meetsCased, hc.heeded, hc.uncased]
  | cons d x ih => exact meetsCased_cons ih

/-- What stands before and after a boundary is lowered by itself. -/
theorem lowercase_append (hc : IsBoundary c) :
    lowercase (s ++ c :: t) = lowercase s ++ c :: lowercase t := by
  have hafter : lowercaseFrom (c :: (s.reverse ++ [])) t = lowercase t :=
    lowercaseFrom_congr (hc.meetsCased_append (x := []))
  rw [lowercase, lowercaseFrom_append fun _ => hc.meetsCased_append, lowercaseFrom, hc.isLowered.lowerChar,
    hafter]
  rfl

/-- Pieces that a boundary separates can be lowered one by one. -/
theorem lowercase_intercalate (hc : IsBoundary c) (pieces : List (List Char)) :
    lowercase ([c].intercalate pieces) = [c].intercalate (pieces.map lowercase) := by
  induction pieces with
  | nil => rfl
  | cons piece pieces ih =>
    cases pieces with
    | nil => simp
    | cons next pieces =>
      rw [List.intercalate_cons_cons, List.append_assoc, List.singleton_append, hc.lowercase_append, ih]
      simp only [List.map_cons, List.intercalate_cons_cons, List.append_assoc, List.singleton_append]

end IsBoundary

/-- A character that a sigma passes over when it looks for the letters around it, and that is its own
lower-case form. -/
structure IsPassedOver (c : Char) : Prop where
  isLowered : IsLowered c
  ignored : isCaseIgnorable c = true

/-- A sigma is lowered in view of what stands beyond an apostrophe. -/
theorem isPassedOver_apostrophe : IsPassedOver '\'' where
  isLowered := by decide
  ignored := by decide

namespace IsPassedOver

variable {s x : List Char} {c : Char}

/-- At the end of what a sigma looks at, such a character makes no difference. -/
theorem meetsCased_concat (hc : IsPassedOver c) : meetsCased (x ++ [c]) = meetsCased x := by
  induction x with
  | nil => simp [meetsCased, hc.ignored]
  | cons d x ih => exact meetsCased_cons ih

/-- A text between two such characters is lowered by itself. -/
theorem lowercase_between (hc : IsPassedOver c) :
    lowercase (c :: (s ++ [c])) = c :: (lowercase s ++ [c]) := by
  -- Nothing but the character stands before the text, and a sigma looks past it.
  have hbefore : lowercaseFrom [c] s = lowercase s := lowercaseFrom_congr (hc.meetsCased_concat (x := []))
  rw [lowercase, lowercaseFrom, hc.isLowered.lowerChar, lowercaseFrom_append fun _ => hc.meetsCased_concat,
    hbefore, lowercaseFrom_of_isLowered (List.forall_mem_singleton.2 hc.isLowered)]
  rfl

end IsPassedOver

/-! ## Splitting and trimming -/

section
variable {before after s : List Char} {c d : Char}

/-- A character that is no part of a lower-case form is in a text in lower case only if it was in the text
before. -/
theorem mem_of_mem_lowercase (hunmade : Ranges.isUnmade [(d.toNat, d.toNat)] = true)
    (h : d ∈ lowercase s) : d ∈ s := by
  obtain ⟨c, hc, _, _, hmade⟩ := exists_of_mem_lowercaseFrom h
  have hhas : Ranges.has [(d.toNat, d.toNat)] d.toNat = true := by simp [Ranges.has_cons]
  obtain ⟨r, hr, hlo, hhi⟩ := Ranges.exists_of_has (Ranges.has_of_mem_lowerChar hunmade hmade hhas)
  obtain rfl := List.mem_singleton.1 hr
  obtain rfl := Char.toNat_inj.1 (Nat.le_antisymm hhi hlo)
  exact hc

/-- Splitting at semicolons after lowering, or lowering the pieces. -/
theorem splitAll_lowercase (s : List Char) :
    splitAll ';' (lowercase s) = (splitAll ';' s).map lowercase := by
  have hnot : ∀ piece ∈ (splitAll ';' s).map lowercase, ';' ∉ piece := by
    rintro _ hlowered hmem
    obtain ⟨piece, hpiece, rfl⟩ := List.mem_map.1 hlowered
    exact (mem_of_mem_splitAll hpiece (mem_of_mem_lowercase (by decide +kernel) hmem)).2 rfl
  conv_lhs => rw [← joinWith_splitAll ';' s, joinWith_eq_intercalate,
    isBoundary_semicolon.lowercase_intercalate]
  exact splitAll_intercalate (by simpa using splitAll_ne_nil ';' s) hnot

/-- No white space comes from lowering anything else. -/
theorem isBlank_of_mem_lowerChar (h : d ∈ lowerChar before c after) (hd : isBlank d = true) :
    isBlank c = true :=
  Ranges.has_of_mem_lowerChar Ranges.isUnmade_blanks h hd

/-- White space before a text is no part of what is lowered. -/
theorem lowercase_blank_append (hbefore : ∀ c ∈ before, isBlank c = true) :
    lowercase (before ++ s) = before ++ lowercase s := by
  induction before with
  | nil => rfl
  | cons c before ih =>
    have hc := isBoundary_of_isBlank (hbefore c List.mem_cons_self)
    rw [List.cons_append, ← List.nil_append (c :: (before ++ s)), hc.lowercase_append,
      ih fun d hd => hbefore d (List.mem_cons_of_mem c hd)]
    rfl

/-- Nor is white space after it. -/
theorem lowercase_append_blank (hafter : ∀ c ∈ after, isBlank c = true) :
    lowercase (s ++ after) = lowercase s ++ after := by
  cases after with
  | nil => rw [List.append_nil, List.append_nil]
  | cons c after =>
    rw [(isBoundary_of_isBlank (hafter c List.mem_cons_self)).lowercase_append,
      lowercase_of_isLowered fun d hd =>
        (isBoundary_of_isBlank (hafter d (List.mem_cons_of_mem c hd))).isLowered]

/-- Every character has a lower-case form. -/
theorem lowerChar_ne_nil : lowerChar before c after ≠ [] := by
  rw [lowerChar]
  split
  · simp
  · split <;> simp

/-- Lowering leaves no text empty. -/
theorem lowercase_ne_nil (h : s ≠ []) : lowercase s ≠ [] := by
  cases s with
  | nil => exact absurd rfl h
  | cons c s =>
    rw [lowercase, lowercaseFrom]
    exact List.append_ne_nil_of_left_ne_nil lowerChar_ne_nil _

/-- The last character of a text is lowered last, with nothing after it. -/
theorem lowercaseFrom_concat :
    ∃ first left, lowercaseFrom before (s ++ [c]) = first ++ lowerChar left c [] := by
  induction s generalizing before with
  | nil => exact ⟨[], before, by rw [List.nil_append, lowercaseFrom, lowercaseFrom, List.append_nil]; rfl⟩
  | cons d s ih =>
    obtain ⟨first, left, h⟩ : ∃ first left, lowercaseFrom (d :: before) (s ++ [c]) = _ := ih
    exact ⟨lowerChar before d (s ++ [c]) ++ first, left, by
      rw [List.cons_append, lowercaseFrom, h, List.append_assoc]⟩

/-- A text that does not begin with white space still does not when it is lowered. -/
theorem head?_lowercase (h : ∀ c ∈ s.head?, isBlank c = false) :
    ∀ d ∈ (lowercase s).head?, isBlank d = false := by
  intro d hd
  cases s with
  | nil => cases hd
  | cons c s =>
    rw [lowercase, lowercaseFrom, List.head?_append_of_ne_nil _ lowerChar_ne_nil] at hd
    rw [← Bool.not_eq_true]
    intro hblank
    have hc := isBlank_of_mem_lowerChar (List.mem_of_mem_head? hd) hblank
    rw [h c rfl] at hc
    cases hc

/-- A text that does not end with white space still does not when it is lowered. -/
theorem getLast?_lowercase (h : ∀ c ∈ s.getLast?, isBlank c = false) :
    ∀ d ∈ (lowercase s).getLast?, isBlank d = false := by
  intro d hd
  rcases s.eq_nil_or_concat' with rfl | ⟨s, c, rfl⟩
  · cases hd
  · obtain ⟨first, left, hlower⟩ : ∃ first left, lowercase (s ++ [c]) = _ := lowercaseFrom_concat
    rw [hlower, List.getLast?_append_of_ne_nil _ lowerChar_ne_nil] at hd
    rw [← Bool.not_eq_true]
    intro hblank
    have hc := isBlank_of_mem_lowerChar (List.mem_of_getLast? hd) hblank
    rw [h c List.getLast?_concat] at hc
    cases hc

/-- Trimming after lowering, or lowering what trimming leaves. -/
theorem trim_lowercase (s : List Char) : trim (lowercase s) = lowercase (trim s) := by
  obtain ⟨before, after, hs, hbefore, hafter⟩ := exists_stripped isBlank s
  conv_lhs => rw [hs, lowercase_blank_append hbefore, lowercase_append_blank hafter]
  rw [trim_eq_stripped, stripped_append hbefore hafter, trim_eq_stripped]
  exact stripped_of_ends (head?_lowercase head?_stripped) (getLast?_lowercase getLast?_stripped)

end

/-! ## ASCII letters -/

section
variable {before after s t : List Char} {c d : Char}

/-- ASCII capitals are lowered within ASCII. -/
theorem lowerChar_of_isUpper (h : c.isUpper = true) : lowerChar before c after = [c.toLower] := by
  have hrange : 65 ≤ c.toNat ∧ c.toNat ≤ 90 := by
    simpa [Char.isUpper, UInt32.le_iff_toNat_le] using h
  have hcode : lowerCode c.toNat = c.toNat + 32 := by
    rw [lowerCode, lowerRuns, CaseRun.find?, if_neg (by simpa using hrange.1), if_pos (by simp; omega)]
    simp
    omega
  have hsigma : c ≠ 'Σ' := by
    rintro rfl
    exact absurd hrange.2 (by decide)
  have hdotted : c ≠ 'İ' := by
    rintro rfl
    exact absurd hrange.2 (by decide)
  rw [lowerChar, if_neg (by simpa using hsigma), if_neg (by simpa using hdotted), hcode,
    Char.toLower_eq_of_isUpper h]

/-- ASCII capitals and characters that are their own lower-case forms are lowered one by one. -/
theorem lowercaseFrom_eq_map (h : ∀ c ∈ s, c.isUpper = true ∨ IsLowered c) :
    lowercaseFrom before s = s.map Char.toLower := by
  induction s generalizing before with
  | nil => rfl
  | cons c s ih =>
    have hc : lowerChar before c s = [c.toLower] := by
      by_cases hupper : c.isUpper = true
      · exact lowerChar_of_isUpper hupper
      · rw [Char.toLower_eq_of_not_isUpper hupper]
        exact ((h c List.mem_cons_self).resolve_left hupper).lowerChar
    rw [lowercaseFrom, hc, ih fun d hd => h d (List.mem_cons_of_mem c hd)]
    rfl

/-- A character that is its own lower-case form is no ASCII capital. -/
theorem IsLowered.toLower_eq (h : IsLowered c) : c.toLower = c := by
  by_cases hupper : c.isUpper = true
  · have hlower : Text.lowerChar [] c [] = [c.toLower] := lowerChar_of_isUpper hupper
    exact List.head_eq_of_cons_eq (hlower.symm.trans h.lowerChar)
  · exact Char.toLower_eq_of_not_isUpper hupper

/-- A text in lower case is what becomes of it in any mixture of ASCII capitals and small letters. -/
theorem lowercase_of_map_toLower_eq (ht : ∀ c ∈ t, IsLowered c)
    (h : s.map Char.toLower = t.map Char.toLower) : lowercase s = t := by
  have hsame : t.map Char.toLower = t :=
    (List.map_congr_left fun c hc => (ht c hc).toLower_eq).trans (List.map_id t)
  have hs : ∀ c ∈ s, c.isUpper = true ∨ IsLowered c := by
    intro c hc
    by_cases hupper : c.isUpper = true
    · exact .inl hupper
    · have hmem : c.toLower ∈ t := by
        rw [← hsame, ← h]
        exact List.mem_map_of_mem hc
      rw [Char.toLower_eq_of_not_isUpper hupper] at hmem
      exact .inr (ht c hmem)
  rw [lowercase, lowercaseFrom_eq_map hs, h, hsame]

end

end RecordRules.Text
