import RecordRules.Parameter
import RecordRules.Proofs.Number.Digits

/-!
# Integers written as text

An integer is written with a minus sign if it is negative, followed by its digits without leading
zeros (`Number.toList_integerText`). Every reader of numbers takes the text for the integer: as an
integer of 64 bits (`Check.isInteger64Text_integerText`) and as a decimal
(`Value.toDecimal?_integerText`).
-/

namespace RecordRules

/-! ## Digits of a natural number -/

/-- The digits of a natural number. -/
def Number.written (n : Nat) : List Char := Nat.toDigits 10 n

section
variable {c : Char} {n : Nat}

/-- A natural number is written in digits. -/
theorem Number.isDigit_of_mem_written (h : c ∈ written n) : c.isDigit = true :=
  Nat.isDigit_of_mem_toDigits (by decide) (by decide) h

/-- A positive number is written without a zero in front. -/
theorem Number.head?_written_ne_zero (h : 0 < n) : (written n).head? ≠ some '0' := by
  induction n using Nat.strongRecOn with
  | _ n ih =>
    rw [written, Nat.toDigits_eq_if (by decide)]
    split
    · simpa using Nat.ne_of_gt h
    · next hn =>
      have hpositive : 0 < n / 10 := Nat.div_pos (Nat.le_of_not_lt hn) (by decide)
      have hhead := ih (n / 10) (Nat.div_lt_self h (by decide)) hpositive
      obtain ⟨c, rest, hdigits⟩ := List.exists_cons_of_ne_nil (Nat.toDigits_ne_nil (n := n / 10))
      rw [written, hdigits] at hhead
      rw [hdigits]
      exact hhead

/-- It has no zeros in front. -/
theorem Check.isCanonical_written (n : Nat) : isCanonical (Number.written n) = true := by
  have hdigits : (Number.written n).all Char.isDigit = true :=
    List.all_eq_true.2 fun c => Number.isDigit_of_mem_written
  rcases Nat.eq_zero_or_pos n with rfl | hn
  · rfl
  · have hhead := Number.head?_written_ne_zero hn
    unfold isCanonical
    split
    · next h => exact absurd h Nat.toDigits_ne_nil
    · rfl
    · next h => simp [h] at hhead
    · exact hdigits

/-- A digit is the text of its value. -/
theorem Number.written_digit (h : c.isDigit = true) : written (c.toNat - '0'.toNat) = [c] := by
  have hrange : 48 ≤ c.toNat ∧ c.toNat ≤ 57 := Char.isDigit_iff_toNat.1 h
  have hlt : c.toNat - 48 < 10 := by omega
  have hchar : Nat.digitChar (c.toNat - 48) = c := by
    rw [← Char.toNat_inj, Nat.toNat_digitChar_of_lt_ten hlt]
    omega
  show Nat.toDigits 10 (c.toNat - 48) = [c]
  rw [Nat.toDigits_of_lt_base hlt, hchar]

/-- Digits after the text of a positive number continue it. -/
theorem Number.written_append {ds : List Char} (hn : 0 < n) (h : ∀ c ∈ ds, c.isDigit = true) :
    written n ++ ds = written (Nat.ofDigitChars 10 ds n) := by
  induction ds generalizing n with
  | nil => rw [List.append_nil, Nat.ofDigitChars_nil]
  | cons c ds ih =>
    have hc : c.isDigit = true := h c (by simp)
    have hrange : 48 ≤ c.toNat ∧ c.toNat ≤ 57 := Char.isDigit_iff_toNat.1 hc
    have hlt : c.toNat - '0'.toNat < 10 := by
      show c.toNat - 48 < 10
      omega
    have hstep : written n ++ [c] = written (10 * n + (c.toNat - '0'.toNat)) := by
      rw [← written_digit hc]
      exact Nat.toDigits_append_toDigits (by decide) hn hlt
    calc written n ++ c :: ds = written n ++ [c] ++ ds := by rw [List.append_assoc, List.singleton_append]
      _ = written (10 * n + (c.toNat - '0'.toNat)) ++ ds := by rw [hstep]
      _ = written (Nat.ofDigitChars 10 ds (10 * n + (c.toNat - '0'.toNat))) :=
        ih (by omega) fun d hd => h d (by simp [hd])
      _ = written (Nat.ofDigitChars 10 (c :: ds) n) := by rw [Nat.ofDigitChars_cons]

/-- Digits without leading zeros are the text of the number they make. -/
theorem Check.eq_written_of_isCanonical {ds : List Char} (h : isCanonical ds = true) :
    ds = Number.written (Nat.ofDigitChars 10 ds 0) := by
  have hdigits := isDigit_of_isCanonical h
  unfold isCanonical at h
  split at h
  · cases h
  · rfl
  · cases h
  · next hne _ hzero =>
    cases ds with
    | nil => exact absurd rfl hne
    | cons c ds =>
      have hc : c.isDigit = true := hdigits c (by simp)
      have hrange : 48 ≤ c.toNat ∧ c.toNat ≤ 57 := Char.isDigit_iff_toNat.1 hc
      have hpos : 0 < 10 * 0 + (c.toNat - '0'.toNat) := by
        have hcode : c.toNat ≠ 48 := fun hcode => by
          obtain rfl : c = '0' := Char.toNat_inj.1 hcode
          exact hzero ds rfl
        show 0 < 10 * 0 + (c.toNat - 48)
        omega
      rw [Nat.ofDigitChars_cons, ← Number.written_append hpos fun d hd => hdigits d (by simp [hd]),
        Nat.mul_zero, Nat.zero_add, Number.written_digit hc, List.singleton_append]

/-- The digits of a number denote it. -/
theorem Number.ofDigits_written (n : Nat) :
    ofDigits (Numeral.digits (written n)).1 = n := by
  rw [Numeral.digits_of_isDigit fun c => isDigit_of_mem_written, Numeral.ofDigits_values]
  exact Nat.ofDigitChars_toDigits (by decide) (by decide)

end

/-! ## The text of an integer -/

section
variable {n m : Int}

/-- An integer is written with its sign and its digits. -/
theorem Number.toList_integerText (n : Int) : (integerText n).toList =
    if n < 0 then '-' :: written n.natAbs else written n.natAbs := by
  rw [integerText]
  split
  · rw [String.toList_append, Nat.toList_repr]
    rfl
  · exact Nat.toList_repr

/-- The text of an integer consists of digits and perhaps a sign before them. -/
theorem Number.of_mem_integerText {c : Char} (h : c ∈ (integerText n).toList) :
    c = '-' ∨ c.isDigit = true := by
  rw [toList_integerText] at h
  split at h
  · exact (List.mem_cons.1 h).imp_right isDigit_of_mem_written
  · exact .inr (isDigit_of_mem_written h)

/-- An integer is written with digits and a minus only. -/
theorem Number.not_mem_integerText {c : Char} (hsign : c ≠ '-') (hdigit : c.isDigit = false) :
    c ∉ (integerText n).toList := by
  intro hmem
  rcases of_mem_integerText hmem with h | h
  · exact hsign h
  · rw [hdigit] at h
    cases h

/-- No integer is written as nothing. -/
theorem Number.integerText_ne_nil (n : Int) : (integerText n).toList ≠ [] := by
  rw [toList_integerText]
  split
  · exact List.cons_ne_nil _ _
  · exact Nat.toDigits_ne_nil

/-- The sign that is taken off a written integer is its own. -/
theorem Number.splitSign_integerText (n : Int) :
    splitSign (integerText n).toList = (decide (n < 0), written n.natAbs) := by
  rw [toList_integerText]
  split
  · next h => simp [splitSign, h]
  · next h => rw [splitSign_of_digits fun c => isDigit_of_mem_written, decide_eq_false h]

/-- An integer is its absolute value with its sign. -/
theorem Number.signed_natAbs (n : Int) : signed (decide (n < 0)) n.natAbs = n := by
  rw [signed]
  by_cases h : n < 0
  · simp only [h, decide_true, if_true]
    omega
  · simp only [h, decide_false, Bool.false_eq_true, if_false]
    omega

/-- Different integers have different texts. -/
theorem Number.integerText_injective (h : integerText m = integerText n) : m = n := by
  have hparts := congrArg (fun t => splitSign t.toList) h
  simp only [splitSign_integerText, Prod.mk.injEq] at hparts
  obtain ⟨hsign, hdigits⟩ := hparts
  rw [← signed_natAbs m, ← signed_natAbs n, hsign, ← ofDigits_written m.natAbs, hdigits,
    ofDigits_written]

/-- The text of an integer has nothing to trim. -/
theorem Text.trim_integerText (n : Int) :
    trim (Number.integerText n).toList = (Number.integerText n).toList := by
  refine trim_of_not_isBlank fun c hc => ?_
  rcases Number.of_mem_integerText hc with rfl | hdigit
  · decide
  · exact not_isBlank_of_isDigit hdigit

/-- There is nothing to trim off a written integer. -/
theorem Numeral.trimAscii_integerText (n : Int) :
    trimAscii (Number.integerText n).toList = (Number.integerText n).toList := by
  refine Text.stripped_of_not_mem fun c hc => ?_
  rcases Number.of_mem_integerText hc with rfl | hdigit
  · rfl
  · exact Text.not_isAsciiBlank_of_isDigit hdigit

/-! ## Readers -/

/-- The text of an integer is read as the integer, which has 64 bits or not. -/
theorem Check.isInteger64Text_integerText (h : Number.digitCount n.natAbs ≤ Number.digitLimit) :
    isInteger64Text (Number.integerText n).toList = .ok (fitsInt64 n) := by
  rw [isInteger64Text, Text.trim_integerText, Number.splitSign_integerText]
  simp only [isCanonical_written, if_true, Number.ofDigits_written, Number.signed_natAbs]
  exact if_neg (Nat.not_lt.2 h)

/-- An integer that is not too long to be written is in the range of decimals. -/
theorem Decimal.inRange_of_digitCount {k : Nat} (h : Number.digitCount k ≤ Number.digitLimit) :
    inRange k 0 = true := by
  have hpos : 0 < Number.digitCount k := Nat.length_toDigits_pos
  have hlimit : Number.digitLimit = 4300 := rfl
  simp [inRange, leadingExponent, maxExponent, minScale]
  omega

/-- The text of an integer is a numeral without a fraction and a power of ten. -/
theorem Numeral.read?_integerText (n : Int) : read? (Number.integerText n).toList =
    some ⟨decide (n < 0), (digits (Number.written n.natAbs)).1, [], 0⟩ := by
  have hdigits := digits_of_isDigit fun c => Number.isDigit_of_mem_written (c := c) (n := n.natAbs)
  have hne : (digits (Number.written n.natAbs)).1.isEmpty = false := by
    rw [hdigits, List.isEmpty_eq_false_iff]
    exact mt values_eq_nil_iff.1 Nat.toDigits_ne_nil
  have hrest : (digits (Number.written n.natAbs)).2 = [] := by rw [hdigits]
  rw [read?, trimAscii_integerText, Number.splitSign_integerText]
  simp only [readUnsigned?, hrest, hne, fractionPart, exponentPart]
  rfl

/-- The text of an integer denotes the integer as a decimal. -/
theorem Value.toDecimal?_integerText (h : Number.digitCount n.natAbs ≤ Number.digitLimit) :
    (text (Number.integerText n)).toDecimal? = (int n).toDecimal? := by
  have hcoefficient : Numeral.coefficient
      ⟨decide (n < 0), (Numeral.digits (Number.written n.natAbs)).1, [], 0⟩ = n.natAbs := by
    rw [Numeral.coefficient, List.append_nil, Number.ofDigits_written]
  have hscale : Numeral.scale
      ⟨decide (n < 0), (Numeral.digits (Number.written n.natAbs)).1, [], 0⟩ = 0 := rfl
  rw [toDecimal?, toDecimal?, Numeral.read?_integerText, Option.bind_some, Decimal.ofNumeral?,
    hcoefficient, hscale, Decimal.inRange_of_digitCount h]
  rfl

end

end RecordRules
