import Mathlib.Tactic.Ring
import RecordRules.Check.Numbers
import RecordRules.Proofs.Text.Trim

/-!
# Texts of digits

Trimming and splitting off a sign never make a text longer, and leave a text alone that consists of
digits. Digits are read up to the first character that is none (`Numeral.digits_append`). So an integer
written without leading zeros is read as it stands, or refused for its length. Digits after others shift
the number of those by their count (`Number.ofDigits_append`).
-/

namespace RecordRules

variable {s : List Char}

/-! ## Lengths -/

/-- Trimming never makes a text longer. -/
theorem Text.length_trim_le : (Text.trim s).length ≤ s.length := by
  have hleft : (trimLeft s).length ≤ s.length := (List.dropWhile_sublist _).length_le
  have hright : ((trimLeft s).reverse.dropWhile isBlank).length ≤ (trimLeft s).reverse.length :=
    (List.dropWhile_sublist _).length_le
  rw [List.length_reverse] at hright
  rw [trim, trimRight, List.length_reverse]
  exact Nat.le_trans hright hleft

/-- Nor does taking off a sign. -/
theorem Number.length_splitSign_le : (Number.splitSign s).2.length ≤ s.length := by
  unfold splitSign
  split <;> simp

/-! ## Digits are no white space -/

/-- No digit is white space. -/
theorem Text.not_isBlank_of_isDigit {c : Char} (h : c.isDigit = true) : isBlank c = false := by
  have hrange : 48 ≤ c.toNat ∧ c.toNat ≤ 57 := Char.isDigit_iff_toNat.1 h
  -- Digits lie between the second and the third range of blanks.
  rw [isBlank, blanks, Ranges.has_cons, if_neg (by omega), if_neg (by omega), Ranges.has_cons,
    if_neg (by omega), if_neg (by omega), Ranges.has_cons, if_pos (by omega)]

/-- ASCII white space is white space. -/
theorem Text.isBlank_of_isAsciiBlank {c : Char} (h : isAsciiBlank c = true) : isBlank c = true := by
  rw [isAsciiBlank, Bool.or_eq_true, beq_iff_eq, Bool.and_eq_true, decide_eq_true_eq,
    decide_eq_true_eq] at h
  rcases h with rfl | ⟨hlower, hupper⟩
  · rfl
  · rw [isBlank, blanks, Ranges.has_cons, if_neg (by omega), if_pos (by omega)]

/-- What is no white space is no ASCII white space. -/
theorem Text.not_isAsciiBlank {c : Char} (h : isBlank c = false) : isAsciiBlank c = false := by
  rw [← Bool.not_eq_true] at h ⊢
  exact mt isBlank_of_isAsciiBlank h

/-- No digit is ASCII white space. -/
theorem Text.not_isAsciiBlank_of_isDigit {c : Char} (h : c.isDigit = true) :
    isAsciiBlank c = false :=
  not_isAsciiBlank (not_isBlank_of_isDigit h)

/-- There is nothing to trim off digits. -/
theorem Text.trim_of_digits (h : ∀ c ∈ s, c.isDigit = true) : trim s = s :=
  trim_of_not_isBlank fun c hc => not_isBlank_of_isDigit (h c hc)

/-- Digits come without a sign. -/
theorem Number.splitSign_of_digits (h : ∀ c ∈ s, c.isDigit = true) : splitSign s = (false, s) := by
  unfold splitSign
  split
  · cases h '-' (by simp)
  · cases h '+' (by simp)
  · rfl

/-! ## Numbers given by digits -/

section
variable {ds es : List Nat} {d : Nat}

/-- One digit more makes ten times as much, and the digit. -/
theorem Number.ofDigits_concat : ofDigits (ds ++ [d]) = 10 * ofDigits ds + d := List.foldl_concat ..

/-- Digits before others count as many tens more as there are others. -/
theorem Number.ofDigits_append :
    ofDigits (ds ++ es) = ofDigits ds * 10 ^ es.length + ofDigits es := by
  induction es using List.reverseRecOn with
  | nil => simp [ofDigits]
  | append_singleton es d ih =>
    rw [← List.append_assoc, ofDigits_concat, ofDigits_concat, ih, List.length_append,
      List.length_singleton]
    ring

end

/-! ## Runs of digits -/

namespace Numeral

variable {ds rest : List Char}

/-- The values of digits. -/
def values (ds : List Char) : List Nat := ds.map fun c => c.toNat - '0'.toNat

/-- The values of digits make the number that the digits write. -/
theorem ofDigits_values (ds : List Char) :
    Number.ofDigits (values ds) = Nat.ofDigitChars 10 ds 0 := by
  rw [Number.ofDigits, values, List.foldl_map, Nat.ofDigitChars_eq_foldl]

/-- The digits of a text are its longest beginning that consists of digits. -/
theorem digits_eq (s : List Char) :
    digits s = (values (s.takeWhile Char.isDigit), s.dropWhile Char.isDigit) := by
  induction s with
  | nil => rfl
  | cons c s ih =>
    rw [digits, digit?]
    by_cases hc : c.isDigit = true
    · simp [hc, ih, values]
    · simp [hc, values]

/-- Digits are read up to the first character that is none. -/
theorem digits_append (hds : ∀ c ∈ ds, c.isDigit = true)
    (hrest : ∀ c ∈ rest.head?, c.isDigit = false) : digits (ds ++ rest) = (values ds, rest) := by
  have htake : rest.takeWhile Char.isDigit = [] := by
    cases rest with
    | nil => rfl
    | cons c rest => simp [hrest c rfl]
  rw [digits_eq, List.takeWhile_append_of_pos hds, List.dropWhile_append_of_pos hds,
    dropWhile_of_head hrest, htake, List.append_nil]

/-- Of digits alone, nothing is left over. -/
theorem digits_of_isDigit (h : ∀ c ∈ ds, c.isDigit = true) : digits ds = (values ds, []) := by
  have hend : digits (ds ++ []) = (values ds, []) := digits_append h (by simp)
  rwa [List.append_nil] at hend

/-- Only no digits have no values. -/
theorem values_eq_nil_iff : values ds = [] ↔ ds = [] := List.map_eq_nil_iff

end Numeral

/-! ## Digits without leading zeros -/

namespace Check

/-- A canonical text is made of digits. -/
theorem isDigit_of_isCanonical (h : isCanonical s = true) : ∀ c ∈ s, c.isDigit = true := by
  unfold isCanonical at h
  split at h
  · simp
  · simp
  · cases h
  · simpa using h

/-- Nines are canonical, however many. -/
theorem isCanonical_nines {n : Nat} : isCanonical (List.replicate (n + 1) '9') = true := by
  unfold isCanonical
  split
  · next h => cases h
  · next h => cases h
  · next h => cases h
  · simp

/-- An integer without leading zeros is read as it stands, or has too many digits to be read. -/
theorem isInteger64Text_of_isCanonical (h : isCanonical s = true) :
    isInteger64Text s =
      if Number.digitLimit < s.length then .error (.tooManyDigits s.length)
      else .ok (fitsInt64 (Number.ofDigits (Numeral.digits s).1)) := by
  have hdigits := isDigit_of_isCanonical h
  rw [isInteger64Text, Text.trim_of_digits hdigits, Number.splitSign_of_digits hdigits]
  simp only [h, if_true]
  rfl

end Check

end RecordRules
