import RecordRules.Text.Letter

/-!
# Letters and digits

The decimal digits of a script are no letters, and do not start an identifier either
(`isDecimalDigit_of_isLetter`, `isDecimalDigit_of_isIdentifierStart`).
-/

namespace RecordRules.Text

variable {c : Char} {ranges : Ranges}

/-- No decimal digit is a letter or one of the other characters that start an identifier. -/
theorem digitZeros_avoid : digitZeros.all (fun first => [letters, initialExtras].all fun ranges =>
    ranges.all fun r => Nat.blt r.2 first || Nat.blt (first + 9) r.1) = true := by
  decide +kernel

/-- The ranges of letters hold no decimal digits. -/
theorem isDecimalDigit_eq_false (hranges : ranges ∈ [letters, initialExtras])
    (h : ranges.has c.toNat = true) : isDecimalDigit c = false := by
  rw [← Bool.not_eq_true]
  intro hdigit
  obtain ⟨first, hfirst, hle, hlt⟩ : ∃ first ∈ digitZeros, first ≤ c.toNat ∧ c.toNat ≤ first + 9 := by
    simpa [isDecimalDigit, digitValue?] using hdigit
  have havoid := List.all_eq_true.1 (List.all_eq_true.1 digitZeros_avoid first hfirst) ranges hranges
  rw [Ranges.has_eq_false havoid hle hlt] at h
  cases h

/-- No letter is a decimal digit. -/
theorem isDecimalDigit_of_isLetter (h : isLetter c = true) : isDecimalDigit c = false :=
  isDecimalDigit_eq_false (by simp) h

/-- Nor is a character with which an identifier may begin. -/
theorem isDecimalDigit_of_isIdentifierStart (h : isIdentifierStart c = true) :
    isDecimalDigit c = false := by
  rcases Bool.or_eq_true_iff.1 h with hletter | hextra
  · exact isDecimalDigit_of_isLetter (Bool.and_eq_true_iff.1 hletter).1
  · exact isDecimalDigit_eq_false (by simp) hextra

end RecordRules.Text
