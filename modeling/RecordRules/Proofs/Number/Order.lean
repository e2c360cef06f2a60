import Mathlib.Algebra.Order.Field.Power
import Mathlib.Data.Rat.Cast.Order
import Mathlib.Order.Compare
import Mathlib.Tactic.Linarith
import Mathlib.Tactic.Positivity
import Mathlib.Tactic.Ring
import RecordRules.Number.Decimal

/-!
# The order of decimals

A finite decimal denotes a rational number (`Decimal.val?`). Decimals are compared by the power of ten
of the leading digit, and only where those agree by their digits on one scale, so no power of ten is
expanded that the numbers do not need. The outcome is the order of the rational numbers
(`Decimal.compareFinite?_eq`), whatever their digits and exponents are.
-/

namespace RecordRules.Decimal

/-- The rational number that a decimal denotes, if it is finite. -/
def val? : Decimal → Option ℚ
  | finite negative coefficient exponent =>
    some ((if negative then -1 else 1) * coefficient * 10 ^ exponent)
  | _ => none

/-- An integer has its own value as a decimal number. -/
theorem val?_ofInt (n : Int) : (ofInt n).val? = some (n : ℚ) := by
  rw [ofInt, val?, zpow_zero, mul_one, Option.some.injEq]
  rcases lt_or_ge n 0 with h | h
  · rw [if_pos (decide_eq_true h), neg_one_mul, ← Int.cast_natCast, Int.ofNat_natAbs_of_nonpos h.le]
    push_cast
    ring
  · rw [if_neg (by simpa using h), one_mul, ← Int.cast_natCast, Int.natAbs_of_nonneg h]

variable {a b : Decimal} {c d : Nat} {e f : Int} {p q : ℚ}

/-! ## The leading digit -/

/-- A positive number has as many digits as the powers of ten around it tell. -/
theorem pow_digitCount (hc : 0 < c) :
    10 ^ (Number.digitCount c - 1) ≤ c ∧ c < 10 ^ Number.digitCount c := by
  have hpos : 0 < Number.digitCount c := Nat.length_toDigits_pos
  refine ⟨?_, (Nat.length_toDigits_le_iff (by decide) hpos).1 (Nat.le_refl _)⟩
  by_cases hone : Number.digitCount c = 1
  · rw [hone]
    exact hc
  · refine Nat.le_of_not_lt fun hlt => ?_
    have hle : Number.digitCount c ≤ Number.digitCount c - 1 :=
      (Nat.length_toDigits_le_iff (by decide) (by omega)).2 hlt
    omega

/-- The leading digit of a positive number stands at the greatest power of ten that is not above the
number. -/
theorem leadingExponent_spec (hc : 0 < c) (e : Int) :
    (10 : ℚ) ^ leadingExponent c e ≤ c * 10 ^ e ∧
      (c : ℚ) * 10 ^ e < 10 ^ (leadingExponent c e + 1) := by
  obtain ⟨hlower, hupper⟩ := pow_digitCount hc
  have hpos : 0 < Number.digitCount c := Nat.length_toDigits_pos
  have hten : (10 : ℚ) ≠ 0 := by norm_num
  constructor
  · have hlead : leadingExponent c e = ((Number.digitCount c - 1 : ℕ) : Int) + e := by
      rw [leadingExponent]
      omega
    rw [hlead, zpow_add₀ hten, zpow_natCast]
    gcongr
    exact_mod_cast hlower
  · have hlead : leadingExponent c e + 1 = (Number.digitCount c : Int) + e := by
      rw [leadingExponent]
      omega
    rw [hlead, zpow_add₀ hten, zpow_natCast]
    gcongr
    exact_mod_cast hupper

/-- Of two positive numbers the one whose leading digit stands lower is less. -/
theorem lt_of_leadingExponent_lt (hc : 0 < c) (hd : 0 < d)
    (h : leadingExponent c e < leadingExponent d f) : (c : ℚ) * 10 ^ e < d * 10 ^ f :=
  calc (c : ℚ) * 10 ^ e < 10 ^ (leadingExponent c e + 1) := (leadingExponent_spec hc e).2
    _ ≤ 10 ^ leadingExponent d f := zpow_le_zpow_right₀ (by norm_num) (by omega)
    _ ≤ d * 10 ^ f := (leadingExponent_spec hd f).1

/-! ## Positive numbers -/

/-- Digits at a higher power of ten are brought down to a lower one. -/
theorem mul_tenTo (d : Nat) (h : e ≤ f) : ((d * tenTo (f - e).toNat : ℕ) : ℚ) * 10 ^ e = d * 10 ^ f := by
  obtain ⟨k, rfl⟩ : ∃ k : ℕ, f = k + e := ⟨(f - e).toNat, by omega⟩
  rw [show ((k : Int) + e - e).toNat = k by omega, zpow_add₀ (by norm_num), zpow_natCast]
  simp only [tenTo, Nat.pow_eq]
  push_cast
  ring

/-- Numbers on one scale are in the order of their digits. -/
theorem compare_mul_zpow (m n : Nat) (e : Int) :
    compare ((m : ℚ) * 10 ^ e) (n * 10 ^ e) = compare m n := by
  have hmono : StrictMono fun k : ℕ => (k : ℚ) * 10 ^ e :=
    Nat.strictMono_cast.mul_const (by positivity)
  rw [← cmp_eq_compare, ← cmp_eq_compare]
  exact hmono.cmp_map_eq m n

/-- **Positive numbers are put in order** by their leading digits and, where those stand at one power of
ten, by their digits on the lower scale. -/
theorem compareMagnitude_eq (hc : 0 < c) (hd : 0 < d) :
    compareMagnitude c e d f = compare ((c : ℚ) * 10 ^ e) (d * 10 ^ f) := by
  rw [compareMagnitude]
  rcases lt_trichotomy (leadingExponent c e) (leadingExponent d f) with h | h | h
  · rw [compare_lt_iff_lt.2 h, compare_lt_iff_lt.2 (lt_of_leadingExponent_lt hc hd h)]
  · rw [compare_eq_iff_eq.2 h]
    show (if e ≤ f then compare c (d * tenTo (f - e).toNat)
      else compare (c * tenTo (e - f).toNat) d) = _
    split
    · next hle => rw [← mul_tenTo d hle, compare_mul_zpow]
    · next hlt => rw [← mul_tenTo c (le_of_not_ge hlt), compare_mul_zpow]
  · rw [compare_gt_iff_gt.2 h, compare_gt_iff_gt.2 (lt_of_leadingExponent_lt hd hc h)]

/-! ## Signed numbers -/

/-- Numbers below zero are in the order opposite to that of their magnitudes. -/
theorem compare_neg (x y : ℚ) : compare (-x) (-y) = compare y x := by
  have hanti : StrictAnti fun z : ℚ => -z := fun _ _ => neg_lt_neg
  rw [← cmp_eq_compare, ← cmp_eq_compare]
  exact hanti.cmp_map_eq x y

/-- **The order of decimals is that of the numbers they denote.** -/
theorem compareFinite?_eq (ha : a.val? = some p) (hb : b.val? = some q) :
    compareFinite? a b = some (compare p q) := by
  cases a with
  | infinite _ | nan => cases ha
  | finite s c e =>
    cases b with
    | infinite _ | nan => cases hb
    | finite t d f =>
      obtain rfl : (if s then -1 else 1) * (c : ℚ) * 10 ^ e = p := Option.some.inj ha
      obtain rfl : (if t then -1 else 1) * (d : ℚ) * 10 ^ f = q := Option.some.inj hb
      refine congrArg some ?_
      -- A zero has no leading digit, so it is compared by the sign of the other number.
      rcases Nat.eq_zero_or_pos c with rfl | hc
      · rcases Nat.eq_zero_or_pos d with rfl | hd
        · simp
        · have hpos : (0 : ℚ) < d * 10 ^ f := by positivity
          simp only [hd.ne', and_false, if_false, if_true, Nat.cast_zero, mul_zero, zero_mul, mul_assoc]
          cases t
          · exact (compare_lt_iff_lt.2 (by simpa using hpos)).symm
          · exact (compare_gt_iff_gt.2 (by simpa using hpos)).symm
      · have hcpos : (0 : ℚ) < c * 10 ^ e := by positivity
        rcases Nat.eq_zero_or_pos d with rfl | hd
        · simp only [hc.ne', false_and, if_false, if_true, Nat.cast_zero, mul_zero, zero_mul, mul_assoc]
          cases s
          · exact (compare_gt_iff_gt.2 (by simpa using hcpos)).symm
          · exact (compare_lt_iff_lt.2 (by simpa using hcpos)).symm
        · have hdpos : (0 : ℚ) < d * 10 ^ f := by positivity
          simp only [hc.ne', hd.ne', false_and, if_false, mul_assoc]
          cases s <;> cases t
          · simp [compareMagnitude_eq hc hd]
          · exact (compare_gt_iff_gt.2 (by simp; linarith)).symm
          · exact (compare_lt_iff_lt.2 (by simp; linarith)).symm
          · simp [compareMagnitude_eq hd hc, compare_neg]

/-- A decimal is at most another if the number it denotes is. -/
theorem le_iff (ha : a.val? = some p) (hb : b.val? = some q) : a.le b = true ↔ p ≤ q := by
  rw [le, compareFinite?_eq ha hb]
  show (compare p q).isLE = true ↔ p ≤ q
  rw [← compare_le_iff_le]
  exact Ordering.isLE_iff_ne_gt

end RecordRules.Decimal
