import Mathlib.Algebra.Order.Field.Power
import Mathlib.Data.Rat.Cast.Order
import Mathlib.Tactic.Linarith
import Mathlib.Tactic.Positivity
import Mathlib.Tactic.Ring
import RecordRules.Number.Binary64

/-!
# Rounding to double precision

`Binary64.ofRatio` brings a fraction to the power of two that gives it a mantissa of 53 bits
(`Binary64.exponentOf_spec`) and rounds the mantissa to the nearest integer (`Binary64.roundDiv_spec`).
No other number of the format is nearer to the fraction, and where another is as near, the mantissa is
even (`Binary64.ofRatio_nearest`).
-/

namespace RecordRules.Binary64

/-- The rational number that a finite number denotes. -/
def val : Binary64 → ℚ
  | finite negative m e => (if negative then -1 else 1) * m * 2 ^ e
  | _ => 0

/-- The finite numbers of the format. -/
def IsNumber : Binary64 → Prop
  | finite _ m e => m < 2 ^ 53 ∧ minExponent ≤ e ∧ e ≤ maxExponent
  | _ => False

/-- The mantissa has its full 53 bits unless the exponent is the least one. -/
def IsFull : Binary64 → Prop
  | finite _ m e => 2 ^ 52 ≤ m ∨ e = minExponent
  | _ => False

/-- The mantissa is even. -/
def IsEven : Binary64 → Prop
  | finite _ m _ => m % 2 = 0
  | _ => False

/-- A number of the format to which no other is preferred for a rational number: no other is nearer,
and its mantissa is even if another is as near. -/
structure Nearest (x : Binary64) (q : ℚ) : Prop where
  number : x.IsNumber
  full : x.IsFull
  nearest : ∀ y : Binary64, y.IsNumber → |x.val - q| ≤ |y.val - q|
  even : ∀ y : Binary64, y.IsNumber → |y.val - q| = |x.val - q| → y.val = x.val ∨ x.IsEven

variable {num den m : Nat} {e : Int} {y : Binary64} {t : ℚ}

/-! ## The nearest integer -/

/-- A quotient is rounded to an integer at most one half away, to an even one if just one half. -/
theorem roundDiv_spec (num : Nat) (hden : 0 < den) :
    |(roundDiv num den : ℚ) - num / den| ≤ 1 / 2 ∧
      (|(roundDiv num den : ℚ) - num / den| = 1 / 2 → roundDiv num den % 2 = 0) := by
  have hd : (0 : ℚ) < den := by exact_mod_cast hden
  obtain ⟨f, hf⟩ : ∃ f : ℚ, ((num % den : ℕ) : ℚ) / den = f := ⟨_, rfl⟩
  have hsum : (num : ℚ) / den = (num / den : ℕ) + f := by
    rw [← hf, div_eq_iff hd.ne', add_mul, div_mul_cancel₀ _ hd.ne']
    exact_mod_cast (Nat.div_add_mod' num den).symm
  have hnonneg : 0 ≤ f := hf ▸ by positivity
  have hlt : f < 1 := by
    rw [← hf, div_lt_one hd]
    exact_mod_cast Nat.mod_lt num hden
  have hmod : ((num % den : ℕ) : ℚ) = f * den := by rw [← hf, div_mul_cancel₀ _ hd.ne']
  rw [hsum, roundDiv]
  split
  · next h =>
    have hhalf : f < 1 / 2 := by
      have : (2 : ℚ) * (num % den : ℕ) < den := by exact_mod_cast h
      rw [hmod] at this
      nlinarith
    rw [show ((num / den : ℕ) : ℚ) - ((num / den : ℕ) + f) = -f by ring, abs_neg,
      abs_of_nonneg hnonneg]
    exact ⟨hhalf.le, fun heq => absurd heq hhalf.ne⟩
  · next h =>
    split
    · next h' =>
      have hhalf : 1 / 2 < f := by
        have : (den : ℚ) < 2 * (num % den : ℕ) := by exact_mod_cast h'
        rw [hmod] at this
        nlinarith
      rw [Nat.cast_add, Nat.cast_one,
        show ((num / den : ℕ) : ℚ) + 1 - ((num / den : ℕ) + f) = 1 - f by ring,
        abs_of_nonneg (by linarith)]
      exact ⟨by linarith, fun heq => by linarith⟩
    · next h' =>
      have hhalf : f = 1 / 2 := by
        have : (den : ℚ) = 2 * (num % den : ℕ) := by exact_mod_cast le_antisymm (not_lt.1 h) (not_lt.1 h')
        rw [hmod] at this
        have hne := hd.ne'
        nlinarith
      split
      · next heven =>
        rw [show ((num / den : ℕ) : ℚ) - ((num / den : ℕ) + f) = -f by ring, abs_neg,
          abs_of_nonneg hnonneg]
        exact ⟨hhalf.le, fun _ => heven⟩
      · next hodd =>
        rw [Nat.cast_add, Nat.cast_one,
          show ((num / den : ℕ) : ℚ) + 1 - ((num / den : ℕ) + f) = 1 - f by ring,
          abs_of_nonneg (by linarith)]
        exact ⟨by linarith, fun _ => by omega⟩

/-- No integer is nearer than one that is at most one half away, and another one is as near only if
it is just one half away. -/
theorem abs_sub_le_of_half {i k : Int} (h : |(i : ℚ) - t| ≤ 1 / 2) :
    |(i : ℚ) - t| ≤ |(k : ℚ) - t| ∧ (|(k : ℚ) - t| = |(i : ℚ) - t| → k = i ∨ |(i : ℚ) - t| = 1 / 2) := by
  by_cases hk : k = i
  · subst hk
    exact ⟨le_rfl, fun _ => .inl rfl⟩
  · have hone : (1 : ℚ) ≤ |(k : ℚ) - i| := by
      exact_mod_cast Int.one_le_abs (sub_ne_zero.2 hk)
    have htriangle : |(k : ℚ) - i| ≤ |(k : ℚ) - t| + |(i : ℚ) - t| := by
      rw [abs_sub_comm (i : ℚ) t]
      exact abs_sub_le _ _ _
    exact ⟨by linarith, fun heq => .inr (by linarith)⟩

/-! ## The power of two -/

/-- Scaling by a power of two, upwards or downwards, leaves a fraction with a positive
denominator. -/
theorem scaled_spec (num : Nat) (hden : 0 < den) (e : Int) :
    0 < (scaled num den e).2 ∧
      ((scaled num den e).1 : ℚ) / (scaled num den e).2 = num / den / 2 ^ e := by
  rw [scaled]
  split
  · next he =>
    obtain ⟨k, rfl⟩ : ∃ k : ℕ, e = -k := ⟨(-e).toNat, by omega⟩
    refine ⟨hden, ?_⟩
    simp [twoTo]
    ring
  · next he =>
    obtain ⟨k, rfl⟩ : ∃ k : ℕ, e = k := ⟨e.toNat, by omega⟩
    refine ⟨Nat.mul_pos hden (by simp [twoTo]), ?_⟩
    simp [twoTo, div_div]

/-- The whole part of a scaled fraction tells how it compares with a power of two. -/
theorem scaled_lt_iff (hden : 0 < den) (e : Int) (k : Nat) :
    (scaled num den e).1 / (scaled num den e).2 < twoTo k ↔ (num : ℚ) / den < 2 ^ (k + e) := by
  obtain ⟨hpos, hratio⟩ := scaled_spec num hden e
  have hd : (0 : ℚ) < (scaled num den e).2 := by exact_mod_cast hpos
  have he : (0 : ℚ) < 2 ^ e := by positivity
  rw [Nat.div_lt_iff_lt_mul hpos, zpow_add₀ two_ne_zero, zpow_natCast, ← div_lt_iff₀ he, ← hratio,
    div_lt_iff₀ hd]
  exact_mod_cast Iff.rfl

/-- A fraction lies within a factor of two of the power of two that its parts suggest. -/
theorem ratio_bounds (hnum : 0 < num) (hden : 0 < den) :
    (2 : ℚ) ^ ((Nat.log2 num : Int) - Nat.log2 den - 1) ≤ num / den ∧
      (num : ℚ) / den < 2 ^ ((Nat.log2 num : Int) - Nat.log2 den + 1) := by
  have hd : (0 : ℚ) < den := by exact_mod_cast hden
  have hnumle : (2 : ℚ) ^ Nat.log2 num ≤ num := by exact_mod_cast Nat.log2_self_le hnum.ne'
  have hnumlt : (num : ℚ) < 2 ^ (Nat.log2 num + 1) := by exact_mod_cast Nat.lt_log2_self
  have hdenle : (2 : ℚ) ^ Nat.log2 den ≤ den := by exact_mod_cast Nat.log2_self_le hden.ne'
  have hdenlt : (den : ℚ) < 2 ^ (Nat.log2 den + 1) := by exact_mod_cast Nat.lt_log2_self
  constructor
  · rw [le_div_iff₀ hd, show ((Nat.log2 num : Int) - Nat.log2 den - 1) =
      (Nat.log2 num : Int) - (Nat.log2 den + 1 : ℕ) by push_cast; ring, zpow_sub₀ two_ne_zero,
      zpow_natCast, zpow_natCast, div_mul_eq_mul_div, div_le_iff₀ (by positivity)]
    gcongr
  · rw [div_lt_iff₀ hd, show ((Nat.log2 num : Int) - Nat.log2 den + 1) =
      ((Nat.log2 num + 1 : ℕ) : Int) - Nat.log2 den by push_cast; ring, zpow_sub₀ two_ne_zero,
      zpow_natCast, zpow_natCast, div_mul_eq_mul_div, lt_div_iff₀ (by positivity)]
    calc (num : ℚ) * 2 ^ Nat.log2 den < 2 ^ (Nat.log2 num + 1) * 2 ^ Nat.log2 den := by gcongr
      _ ≤ 2 ^ (Nat.log2 num + 1) * den := by gcongr

/-- **The power of two of a fraction** leaves a mantissa below 53 bits, and one of 53 bits unless it
is the least power. -/
theorem exponentOf_spec (hnum : 0 < num) (hden : 0 < den) :
    minExponent ≤ exponentOf num den ∧ (num : ℚ) / den < 2 ^ (53 + exponentOf num den) ∧
      (exponentOf num den = minExponent ∨ (2 : ℚ) ^ (52 + exponentOf num den) ≤ num / den) := by
  obtain ⟨hlower, hupper⟩ := ratio_bounds hnum hden
  obtain ⟨g, hg⟩ : ∃ g : Int, (Nat.log2 num : Int) - Nat.log2 den - 52 = g := ⟨_, rfl⟩
  rw [show (Nat.log2 num : Int) - Nat.log2 den - 1 = 51 + g by omega] at hlower
  rw [show (Nat.log2 num : Int) - Nat.log2 den + 1 = 53 + g by omega] at hupper
  -- The second test succeeds when it is reached, so the third outcome does not occur.
  obtain ⟨b, hb, hblower, hbupper⟩ : ∃ b, exponentOf num den = max b minExponent ∧
      (2 : ℚ) ^ (52 + b) ≤ num / den ∧ (num : ℚ) / den < 2 ^ (53 + b) := by
    have hexponent : exponentOf num den = max
        (if (scaled num den g).1 / (scaled num den g).2 < twoTo 52 then g - 1
          else if (scaled num den g).1 / (scaled num den g).2 < twoTo 53 then g else g + 1)
        minExponent := by
      rw [← hg]
      rfl
    by_cases hsmall : (num : ℚ) / den < 2 ^ (52 + g)
    · refine ⟨g - 1, ?_, ?_, ?_⟩
      · rw [hexponent, if_pos ((scaled_lt_iff hden g 52).2 hsmall)]
      · rwa [show 52 + (g - 1) = 51 + g by ring]
      · rwa [show 53 + (g - 1) = 52 + g by ring]
    · refine ⟨g, ?_, not_lt.1 hsmall, hupper⟩
      rw [hexponent, if_neg (mt (scaled_lt_iff hden g 52).1 hsmall),
        if_pos ((scaled_lt_iff hden g 53).2 hupper)]
  rw [hb]
  rcases le_total b minExponent with hle | hle
  · rw [max_eq_right hle]
    refine ⟨le_rfl, hbupper.trans_le ?_, .inl rfl⟩
    exact zpow_le_zpow_right₀ one_le_two (by omega)
  · rw [max_eq_left hle]
    exact ⟨hle, hbupper, .inr hblower⟩

/-! ## The nearest number -/

/-- A number of the format is a whole multiple of a power of two or, if it needs a smaller power, lies
below all multiples that have 53 bits. -/
theorem IsNumber.multiple_or_lt (hy : y.IsNumber) (e : Int) :
    (∃ k : Int, y.val = k * 2 ^ e) ∨ (minExponent < e ∧ y.val < 2 ^ 52 * 2 ^ e) := by
  cases y with
  | infinite _ | nan => cases hy
  | finite negative m f =>
    obtain ⟨hm, hf, -⟩ := hy
    by_cases he : e ≤ f
    · obtain ⟨k, hk⟩ : ∃ k : ℕ, f = k + e := ⟨(f - e).toNat, by omega⟩
      refine .inl ⟨(if negative then -1 else 1) * m * 2 ^ k, ?_⟩
      rw [val, hk, zpow_add₀ two_ne_zero, zpow_natCast]
      split <;> push_cast <;> ring
    · refine .inr ⟨by omega, ?_⟩
      have hmantissa : (m : ℚ) < 2 ^ 53 := by exact_mod_cast hm
      have hpower : (2 : ℚ) ^ f ≤ 2 ^ (e - 1) := zpow_le_zpow_right₀ one_le_two (by omega)
      have hpos : (0 : ℚ) < 2 ^ f := by positivity
      calc (finite negative m f).val ≤ m * 2 ^ f := by
            rw [val]
            split
            · nlinarith [(by positivity : (0 : ℚ) ≤ m * 2 ^ f)]
            · linarith
        _ < 2 ^ 53 * 2 ^ f := by gcongr
        _ ≤ 2 ^ 53 * 2 ^ (e - 1) := by gcongr
        _ = 2 ^ 52 * 2 ^ e := by
            rw [zpow_sub_one₀ two_ne_zero]
            ring

/-- A multiple `t` of a power of two is rounded to the mantissa `m`: to an integer at most one half
away, to an even one if just one half, and `t` has 53 bits before the point unless the power is the
least one. -/
structure Rounds (t : ℚ) (e : Int) (m : Nat) : Prop where
  half : |(m : ℚ) - t| ≤ 1 / 2
  even : |(m : ℚ) - t| = 1 / 2 → m % 2 = 0
  full : e = minExponent ∨ 2 ^ 52 ≤ t

/-- A rounded mantissa is nearer than any number of the format, or as near and even. -/
theorem Rounds.abs_sub_le (h : Rounds t e m) (hy : y.IsNumber) :
    |(m : ℚ) * 2 ^ e - t * 2 ^ e| ≤ |y.val - t * 2 ^ e| ∧
      (|y.val - t * 2 ^ e| = |(m : ℚ) * 2 ^ e - t * 2 ^ e| → y.val = m * 2 ^ e ∨ m % 2 = 0) := by
  have hpos : (0 : ℚ) < 2 ^ e := by positivity
  have hscale (a : ℚ) : |a * 2 ^ e - t * 2 ^ e| = |a - t| * 2 ^ e := by
    rw [← sub_mul, abs_mul, abs_of_pos hpos]
  have hhalf : |((m : Int) : ℚ) - t| ≤ 1 / 2 := by exact_mod_cast h.half
  rcases hy.multiple_or_lt e with ⟨k, hk⟩ | ⟨he, hlt⟩
  · obtain ⟨hle, htie⟩ := abs_sub_le_of_half (k := k) hhalf
    rw [hk, hscale, hscale]
    refine ⟨mul_le_mul_of_nonneg_right (by exact_mod_cast hle) hpos.le, fun heq => ?_⟩
    rcases htie (by exact_mod_cast mul_right_cancel₀ hpos.ne' heq) with rfl | hone
    · exact .inl (by push_cast; rfl)
    · exact .inr (h.even (by exact_mod_cast hone))
  · -- `y` lies below `2^52 · 2^e`, and that is no nearer than the mantissa.
    have hbig : 2 ^ 52 ≤ t := h.full.resolve_left he.ne'
    have hle : |(m : ℚ) - t| ≤ t - 2 ^ 52 := by
      have := (abs_sub_le_of_half (k := (2 ^ 52 : ℕ)) hhalf).1
      rwa [Int.cast_natCast, Int.cast_natCast, Nat.cast_pow, Nat.cast_ofNat,
        abs_of_nonpos (by linarith : (2 : ℚ) ^ 52 - t ≤ 0), neg_sub] at this
    have hstrict : |(m : ℚ) * 2 ^ e - t * 2 ^ e| < |y.val - t * 2 ^ e| := by
      have hbelow : y.val - t * 2 ^ e < 0 := by nlinarith
      rw [hscale, abs_of_neg hbelow]
      nlinarith
    exact ⟨hstrict.le, fun heq => absurd heq hstrict.ne'⟩

/-- Rounding does not make a mantissa shorter than 53 bits. -/
theorem Rounds.isFull (h : Rounds t e m) : 2 ^ 52 ≤ m ∨ e = minExponent := by
  rcases h.full with hmin | hbig
  · exact .inr hmin
  · have hlt : ((2 ^ 52 - 1 : ℕ) : ℚ) < m := by
      push_cast
      linarith [(abs_le.1 h.half).1]
    have : 2 ^ 52 - 1 < m := by exact_mod_cast hlt
    exact .inl (by omega)

/-- A number with the value of a rounded mantissa is nearest to what was rounded. -/
theorem Rounds.nearest {x : Binary64} (h : Rounds t e m) (hx : x.IsNumber) (hfull : x.IsFull)
    (hval : x.val = m * 2 ^ e) (heven : m % 2 = 0 → x.IsEven) : x.Nearest (t * 2 ^ e) where
  number := hx
  full := hfull
  nearest y hy := by
    rw [hval]
    exact (h.abs_sub_le hy).1
  even y hy heq := by
    rw [hval] at heq ⊢
    exact ((h.abs_sub_le hy).2 heq).imp_right heven

/-- A fraction is rounded to a mantissa of at most 53 bits or to the least one of 54 bits, which is
written with the next power of two. -/
theorem ofRatio_of_pos (hnum : 0 < num) (hden : 0 < den) :
    ∃ m e t, Rounds t e m ∧ (num : ℚ) / den = t * 2 ^ e ∧ m ≤ 2 ^ 53 ∧ minExponent ≤ e ∧
      ofRatio false num den =
        if m = 2 ^ 53 then if maxExponent < e + 1 then infinite false else finite false (2 ^ 52) (e + 1)
        else if maxExponent < e then infinite false else finite false m e := by
  obtain ⟨hmin, hupper, hlower⟩ := exponentOf_spec hnum hden
  obtain ⟨e, he⟩ : ∃ e, exponentOf num den = e := ⟨_, rfl⟩
  obtain ⟨hscaled, hratio⟩ := scaled_spec num hden e
  obtain ⟨t, ht⟩ : ∃ t : ℚ, (num : ℚ) / den / 2 ^ e = t := ⟨_, rfl⟩
  obtain ⟨m, hm⟩ : ∃ m, roundDiv (scaled num den e).1 (scaled num den e).2 = m := ⟨_, rfl⟩
  have hpos : (0 : ℚ) < 2 ^ e := by positivity
  have hq : (num : ℚ) / den = t * 2 ^ e := by rw [← ht, div_mul_cancel₀ _ hpos.ne']
  obtain ⟨hhalf, heven⟩ := roundDiv_spec (scaled num den e).1 hscaled
  rw [hratio, ht, hm] at hhalf heven
  rw [he] at hmin hupper hlower
  rw [hq, zpow_add₀ two_ne_zero, mul_lt_mul_iff_left₀ hpos] at hupper
  rw [hq, zpow_add₀ two_ne_zero, mul_le_mul_iff_left₀ hpos] at hlower
  have hmle : m ≤ 2 ^ 53 := by
    have hlt : (m : ℚ) < (2 ^ 53 + 1 : ℕ) := by
      push_cast
      linarith [(abs_le.1 hhalf).2]
    have : m < 2 ^ 53 + 1 := by exact_mod_cast hlt
    omega
  refine ⟨m, e, t, ⟨hhalf, heven, hlower⟩, hq, hmle, hmin, ?_⟩
  rw [ofRatio, if_neg hnum.ne', he]
  simp only [hm, show twoTo 53 = 2 ^ 53 from rfl, show twoTo 52 = 2 ^ 52 from rfl]
  by_cases hcarry : m = 2 ^ 53
  · rw [if_pos hcarry, if_pos hcarry]
  · rw [if_neg hcarry, if_neg hcarry]

/-- **A fraction is rounded to the nearest number**, unless it lies beyond the range. -/
theorem ofRatio_nearest (hden : 0 < den) (hfinite : ofRatio false num den ≠ infinite false) :
    (ofRatio false num den).Nearest (num / den) := by
  rcases Nat.eq_zero_or_pos num with rfl | hnum
  · have hzero : Rounds 0 minExponent 0 := ⟨by simp, fun _ => rfl, .inl rfl⟩
    rw [show ((0 : ℕ) : ℚ) / den = 0 * 2 ^ minExponent by simp]
    exact hzero.nearest ⟨by decide, le_rfl, by decide⟩ (.inr rfl) (by simp [ofRatio, val]) fun _ => rfl
  obtain ⟨m, e, t, hround, hq, hm, he, heq⟩ := ofRatio_of_pos hnum hden
  rw [heq] at hfinite ⊢
  rw [hq]
  by_cases hcarry : m = 2 ^ 53
  · rw [if_pos hcarry] at hfinite ⊢
    have hmax : ¬maxExponent < e + 1 := fun h => hfinite (if_pos h)
    rw [if_neg hmax]
    refine hround.nearest ⟨by decide, by omega, by omega⟩ (.inl le_rfl) ?_ fun _ => by simp [IsEven]
    rw [hcarry, val, zpow_add_one₀ two_ne_zero]
    push_cast
    ring
  · rw [if_neg hcarry] at hfinite ⊢
    have hmax : ¬maxExponent < e := fun h => hfinite (if_pos h)
    rw [if_neg hmax]
    exact hround.nearest ⟨lt_of_le_of_ne hm hcarry, he, by omega⟩ hround.isFull (by simp [val])
      fun h => h

/-- A fraction of at most one lies in the range. -/
theorem ofRatio_ne_infinite (hle : num ≤ den) (hden : 0 < den) :
    ofRatio false num den ≠ infinite false := by
  rcases Nat.eq_zero_or_pos num with rfl | hnum
  · simp [ofRatio]
  have he : exponentOf num den + 1 ≤ 0 := by
    rcases (exponentOf_spec hnum hden).2.2 with hmin | hlower
    · rw [hmin]
      decide
    · have hone : (num : ℚ) / den ≤ 2 ^ (0 : Int) := by
        rw [zpow_zero, div_le_one (by exact_mod_cast hden)]
        exact_mod_cast hle
      have := (zpow_le_zpow_iff_right₀ one_lt_two).1 (hlower.trans hone)
      omega
  rw [ofRatio, if_neg hnum.ne']
  simp only [maxExponent]
  split <;> rw [if_neg (by omega)] <;> exact Binary64.noConfusion

end RecordRules.Binary64
