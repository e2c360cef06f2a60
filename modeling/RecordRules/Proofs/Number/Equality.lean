import Mathlib.Tactic.SplitIfs
import RecordRules.Proofs.Number.Nearest
import RecordRules.Proofs.Number.Order
import RecordRules.Value.Equality

/-!
# Equal numbers

An integer, a double precision number and a decimal denote a rational number or an infinity, if they are
not "not a number" (`Value.quantity?`). They are compared pair by pair of their kinds, without bringing them
to one kind, but always with the same outcome: two numbers are equal if they denote the same
(`Value.sameNumber_iff`). For double precision numbers this needs that each is kept in its one form
(`Binary64.IsProper`), since two of them are compared by their parts; rounding gives numbers in that form
(`Binary64.isProper_ofRatio`).
-/

namespace RecordRules

/-- What a number denotes. -/
inductive Quantity
  | rational (q : ℚ)
  | infinite (negative : Bool)

/-- What a double precision number denotes, if it is a number. -/
def Binary64.quantity? : Binary64 → Option Quantity
  | finite negative m e => some (.rational (finite negative m e).val)
  | infinite negative => some (.infinite negative)
  | nan => none

/-- What a decimal denotes, if it is a number. -/
def Decimal.quantity? : Decimal → Option Quantity
  | finite negative coefficient exponent => (finite negative coefficient exponent).val?.map .rational
  | infinite negative => some (.infinite negative)
  | nan .. => none

theorem Decimal.quantity?_finite (s : Bool) (c : Nat) (e : Int) : (finite s c e).quantity? =
    some (.rational ((if s then -1 else 1) * c * 10 ^ e)) := rfl

theorem Decimal.quantity?_infinite (s : Bool) : (infinite s).quantity? = some (.infinite s) := rfl

/-- What a value denotes, if it is a number. Truth values are numbers here. -/
def Value.quantity? : Value → Option Quantity
  | bool b => some (.rational (if b then 1 else 0))
  | int n => some (.rational n)
  | float x => x.quantity?
  | decimal d => d.quantity?
  | _ => none

/-- Something denotes what is known to be denoted. -/
theorem Quantity.exists_iff {a b : Option Quantity} {p : Quantity} (ha : a = some p) :
    (∃ q, a = some q ∧ b = some q) ↔ b = some p := by
  simp [ha]

/-- The form in which double precision numbers are kept. -/
def Binary64.IsProper : Binary64 → Prop
  | finite negative m e => (finite negative m e).IsNumber ∧ (finite negative m e).IsFull
  | _ => True

/-! ## Signs and scales -/

/-- Signed numbers are equal if their signs and their magnitudes are. -/
theorem signed_eq_iff {s t : Bool} {p q : ℚ} (hp : 0 < p) (hq : 0 < q) :
    (if s then -1 else 1) * p = (if t then -1 else 1) * q ↔ s = t ∧ p = q := by
  cases s <;> cases t <;> simp only [if_true, if_false, one_mul, neg_mul, neg_inj, Bool.false_eq_true,
    reduceCtorEq, true_and, false_and, iff_false]
  · linarith
  · linarith

/-- The sign of a product with a natural number is that of its first factor. -/
theorem Number.signed_mul (s : Bool) (m n : Nat) : signed s (m * n) = signed s m * n := by
  cases s <;> simp [signed]

/-- A sign does not change the absolute value. -/
theorem Number.natAbs_signed (s : Bool) (m : Nat) : (signed s m).natAbs = m := by
  cases s <;> simp [signed]

/-- A power is a fraction of two whole ones. -/
theorem zpow_eq_div (b : ℚ) (e : Int) : b ^ e = b ^ e.toNat / b ^ (-e).toNat := by
  rcases le_total 0 e with h | h
  · obtain ⟨k, rfl⟩ := Int.eq_ofNat_of_zero_le h
    simp
  · obtain ⟨k, hk⟩ := Int.eq_ofNat_of_zero_le (Int.neg_nonneg_of_nonpos h)
    obtain rfl : e = -k := by omega
    simp

/-- Three binary digits are less than a decimal one. -/
theorem two_pow_le_ten_pow (k : Nat) : (2 : ℚ) ^ (3 * k) ≤ 10 ^ k := by
  rw [pow_mul]
  gcongr
  norm_num

namespace Binary64

variable {s t : Bool} {m n : Nat} {e f : Int} {x y : Binary64}

/-! ## Double precision numbers -/

theorem quantity?_finite (s : Bool) (m : Nat) (e : Int) :
    (finite s m e).quantity? = some (.rational (finite s m e).val) := rfl

theorem quantity?_infinite (s : Bool) : (infinite s).quantity? = some (.infinite s) := rfl

/-- A finite number is zero when its significand is. -/
theorem val_eq_zero_iff : (finite s m e).val = 0 ↔ m = 0 := by
  have hpos : (2 : ℚ) ^ e ≠ 0 := by positivity
  cases s <;> simp [val, hpos]

/-! ### The form in which numbers are kept -/

/-- Zero is a number of the format. -/
theorem isProper_zero (s : Bool) : (finite s 0 minExponent).IsProper :=
  ⟨⟨by decide, le_rfl, by decide⟩, .inr rfl⟩

/-- A fraction is rounded to a number in its form, of either sign. -/
theorem isProper_ofRatio (s : Bool) {num den : Nat} (hden : 0 < den) : (ofRatio s num den).IsProper := by
  have hsign : (ofRatio s num den).IsProper ↔ (ofRatio false num den).IsProper := by
    unfold ofRatio
    dsimp only
    split_ifs <;> exact Iff.rfl
  rw [hsign]
  by_cases hinfinite : ofRatio false num den = infinite false
  · rw [hinfinite]
    trivial
  · have hnearest := ofRatio_nearest hden hinfinite
    cases hx : ofRatio false num den with
    | finite negative m e => exact ⟨hx ▸ hnearest.number, hx ▸ hnearest.full⟩
    | _ => trivial

/-- So is the nearest number to a decimal fraction. -/
theorem isProper_ofScientific (s : Bool) (coefficient : Nat) (exponent : Int) :
    (ofScientific s coefficient exponent).IsProper := by
  rw [ofScientific]
  split_ifs
  · exact isProper_zero s
  · trivial
  · exact isProper_ofRatio s (Nat.pow_pos (by decide))
  · exact isProper_ofRatio s Nat.one_pos

/-- A number that is read from a numeral is kept in its form. -/
theorem isProper_ofNumeral (n : Numeral) : (ofNumeral n).IsProper := isProper_ofScientific ..

/-- So is the nearest number to an integer. -/
theorem isProper_ofInt (n : Int) : (ofInt n).IsProper := isProper_ofRatio _ Nat.one_pos

/-! ### Equal numbers -/

/-- Two full mantissas with the same value have the same exponent. -/
theorem eq_of_mul_zpow_eq (hx : m < 2 ^ 53) (hy : 2 ^ 52 ≤ n ∨ f = minExponent) (he : minExponent ≤ e)
    (hle : e ≤ f) (h : (m : ℚ) * 2 ^ e = n * 2 ^ f) : m = n ∧ e = f := by
  obtain ⟨k, rfl⟩ : ∃ k : ℕ, f = k + e := ⟨(f - e).toNat, by omega⟩
  have hpos : (0 : ℚ) < 2 ^ e := by positivity
  have hmantissa : m = n * 2 ^ k := by
    rw [zpow_add₀ two_ne_zero, zpow_natCast, ← mul_assoc] at h
    exact_mod_cast mul_right_cancel₀ hpos.ne' h
  cases k with
  | zero => exact ⟨by simpa using hmantissa, by simp⟩
  | succ k =>
    -- The greater exponent is not the least one, so its mantissa is full and the other one too large.
    have hfull : 2 ^ 52 ≤ n := hy.resolve_right (by omega)
    have hlarge : 2 ^ 53 ≤ n * 2 ^ (k + 1) := by
      calc 2 ^ 53 = 2 ^ 52 * 2 ^ 1 := by norm_num
        _ ≤ n * 2 ^ (k + 1) := Nat.mul_le_mul hfull (Nat.pow_le_pow_right (by decide) (by omega))
    omega

/-- **Each number is kept in one form**, but zero has two signs. -/
theorem sameNumber_finite_iff (hx : (finite s m e).IsProper) (hy : (finite t n f).IsProper) :
    (finite s m e).sameNumber (finite t n f) = true ↔ (finite s m e).val = (finite t n f).val := by
  obtain ⟨⟨hm, he, -⟩, hfull⟩ := hx
  obtain ⟨⟨hn, hf, -⟩, hfull'⟩ := hy
  simp only [sameNumber, Bool.or_eq_true, Bool.and_eq_true, decide_eq_true_eq]
  constructor
  · rintro (⟨rfl, rfl⟩ | ⟨⟨rfl, rfl⟩, rfl⟩)
    · rw [val_eq_zero_iff.2 rfl, val_eq_zero_iff.2 rfl]
    · rfl
  · intro hval
    rcases Nat.eq_zero_or_pos m with hzero | hpos
    · rw [val_eq_zero_iff.2 hzero, eq_comm, val_eq_zero_iff] at hval
      exact .inl ⟨hzero, hval⟩
    · have hpos' : 0 < n := Nat.pos_of_ne_zero fun hzero => by
        rw [val_eq_zero_iff.2 hzero, val_eq_zero_iff] at hval
        omega
      rw [val, val, mul_assoc, mul_assoc, signed_eq_iff (by positivity) (by positivity)] at hval
      obtain ⟨hsign, hmagnitude⟩ := hval
      rcases le_total e f with hle | hle
      · obtain ⟨hmantissa, hexponent⟩ := eq_of_mul_zpow_eq hm hfull' he hle hmagnitude
        exact .inr ⟨⟨hsign, hmantissa⟩, hexponent⟩
      · obtain ⟨hmantissa, hexponent⟩ := eq_of_mul_zpow_eq hn hfull hf hle hmagnitude.symm
        exact .inr ⟨⟨hsign, hmantissa.symm⟩, hexponent.symm⟩

/-- Numbers of the format are equal when they denote the same quantity. -/
theorem sameNumber_iff (hx : x.IsProper) (hy : y.IsProper) :
    x.sameNumber y = true ↔ ∃ q, x.quantity? = some q ∧ y.quantity? = some q := by
  cases x with
  | nan => simp [sameNumber, quantity?]
  | infinite s =>
    rw [Quantity.exists_iff (quantity?_infinite s)]
    cases y <;> simp [sameNumber, quantity?, eq_comm]
  | finite s m e =>
    rw [Quantity.exists_iff (quantity?_finite s m e)]
    cases y with
    | nan => simp [sameNumber, quantity?]
    | infinite t => simp [sameNumber, quantity?]
    | finite t n f =>
      rw [sameNumber_finite_iff hx hy, quantity?_finite, Option.some.injEq, Quantity.rational.injEq,
        eq_comm]

/-! ## Integers -/

/-- A number and an integer on the scale on which both are whole. -/
theorem val_eq_intCast_iff {i : Int} : (finite s m e).val = i ↔
    Number.signed s (m * twoTo e.toNat) = i * (twoTo (-e).toNat : ℕ) := by
  have hpos : (2 : ℚ) ^ (-e).toNat ≠ 0 := by positivity
  rw [val, zpow_eq_div, ← mul_div_assoc, div_eq_iff hpos, Number.signed, twoTo, twoTo, Nat.pow_eq,
    Nat.pow_eq]
  cases s
  · simp only [Bool.false_eq_true, if_false, one_mul]
    exact_mod_cast Iff.rfl
  · simp only [if_true, neg_mul, one_mul]
    exact_mod_cast Iff.rfl

/-- A number is equal to the integer that it denotes. -/
theorem toInt?_eq_some_iff {i : Int} : x.toInt? = some i ↔ x.quantity? = some (.rational i) := by
  cases x with
  | nan => simp [toInt?, quantity?]
  | infinite s => simp [toInt?, quantity?]
  | finite s m e =>
    have hunit : twoTo 0 = 1 := rfl
    rw [quantity?, Option.some.injEq, Quantity.rational.injEq, val_eq_intCast_iff, toInt?]
    split
    · next he =>
      rw [show e.toNat = 0 by omega, hunit, Nat.mul_one]
      generalize hk : twoTo (-e).toNat = k
      have hkpos : 0 < k := hk ▸ Nat.two_pow_pos _
      split
      · next hdvd =>
        obtain ⟨q, rfl⟩ := Nat.dvd_of_mod_eq_zero hdvd
        rw [Option.some.injEq, Nat.mul_div_cancel_left q hkpos, Nat.mul_comm, Number.signed_mul]
        exact (Int.mul_eq_mul_right_iff (by omega)).symm
      · next hdvd =>
        refine iff_of_false nofun fun h => hdvd ?_
        have hmagnitude := congrArg Int.natAbs h
        rw [Number.natAbs_signed, Int.natAbs_mul, Int.natAbs_natCast] at hmagnitude
        rw [hmagnitude, Nat.mul_mod_left]
    · next he => rw [show (-e).toNat = 0 by omega, hunit, Nat.cast_one, mul_one, Option.some.injEq]

/-! ## Decimals -/

/-- The leading digit of a decimal that denotes a double precision number stands within moderate bounds. -/
theorem leadingExponent_bounds {c : Nat} {k : Int} (hm : 0 < m) (hc : 0 < c)
    (hx : (finite s m e).IsProper) (h : (m : ℚ) * 2 ^ e = c * 10 ^ k) :
    -400 ≤ Decimal.leadingExponent c k ∧ Decimal.leadingExponent c k ≤ 400 := by
  obtain ⟨⟨hlt, hlower, hupper⟩, -⟩ := hx
  obtain ⟨hlead, hlead'⟩ := Decimal.leadingExponent_spec hc k
  rw [← h] at hlead hlead'
  have hone : (1 : ℚ) ≤ m := by exact_mod_cast hm
  have hmantissa : (m : ℚ) < 2 ^ 53 := by exact_mod_cast hlt
  constructor
  · have hbelow : (10 : ℚ) ^ (-(400 : ℕ) : Int) < 10 ^ (Decimal.leadingExponent c k + 1) :=
      calc (10 : ℚ) ^ (-(400 : ℕ) : Int) ≤ 2 ^ (-(3 * 400 : ℕ) : Int) := by
            rw [zpow_neg, zpow_neg, zpow_natCast, zpow_natCast]
            exact inv_anti₀ (by positivity) (two_pow_le_ten_pow 400)
        _ ≤ 2 ^ e := zpow_le_zpow_right₀ one_le_two (le_trans (by decide) hlower)
        _ ≤ m * 2 ^ e := le_mul_of_one_le_left (by positivity) hone
        _ < 10 ^ (Decimal.leadingExponent c k + 1) := hlead'
    have := (zpow_lt_zpow_iff_right₀ (by norm_num)).1 hbelow
    omega
  · have habove : (10 : ℚ) ^ Decimal.leadingExponent c k < 10 ^ ((400 : ℕ) : Int) :=
      calc (10 : ℚ) ^ Decimal.leadingExponent c k ≤ m * 2 ^ e := hlead
        _ < 2 ^ 53 * 2 ^ e := by gcongr
        _ ≤ 2 ^ 53 * 2 ^ maxExponent := by gcongr; exact one_le_two
        _ ≤ 2 ^ ((3 * 400 : ℕ) : Int) := by
            rw [← zpow_natCast, ← zpow_add₀ two_ne_zero]
            exact zpow_le_zpow_right₀ one_le_two (by decide)
        _ ≤ 10 ^ ((400 : ℕ) : Int) := by
            rw [zpow_natCast, zpow_natCast]
            exact two_pow_le_ten_pow 400
    have := (zpow_lt_zpow_iff_right₀ (by norm_num)).1 habove
    omega

/-- A number and a decimal on the scale on which both are whole. -/
theorem mul_zpow_eq_iff {c : Nat} {k : Int} : (m : ℚ) * 2 ^ e = c * 10 ^ k ↔
    m * twoTo e.toNat * tenTo (-k).toNat = c * tenTo k.toNat * twoTo (-e).toNat := by
  have hbinary : (2 : ℚ) ^ (-e).toNat ≠ 0 := by positivity
  have hdecimal : (10 : ℚ) ^ (-k).toNat ≠ 0 := by positivity
  rw [zpow_eq_div 2, zpow_eq_div 10, ← mul_div_assoc, ← mul_div_assoc, div_eq_div_iff hbinary hdecimal]
  simp only [twoTo, tenTo, Nat.pow_eq]
  exact_mod_cast Iff.rfl

/-- Numbers with equal values are equal, though their magnitudes are compared only if they may be close. -/
theorem equalsDecimal_finite_iff {c : Nat} {k : Int} (hx : (finite s m e).IsProper) :
    (finite s m e).equalsDecimal (.finite t c k) = true ↔
      (finite s m e).val = (if t then -1 else 1) * c * 10 ^ k := by
  rw [equalsDecimal]
  split
  · next hzero =>
    have hten : (10 : ℚ) ^ k ≠ 0 := by positivity
    rcases hzero with rfl | rfl
    · rw [val_eq_zero_iff.2 rfl, eq_comm (a := (0 : ℚ))]
      cases t <;> simp [hten]
    · cases t <;> simp [val_eq_zero_iff]
  · next hne =>
    obtain ⟨hm, hc⟩ := not_or.1 hne
    have hm : 0 < m := Nat.pos_of_ne_zero hm
    have hc : 0 < c := Nat.pos_of_ne_zero hc
    have hval : (finite s m e).val = (if t then -1 else 1) * c * 10 ^ k ↔
        s = t ∧ (m : ℚ) * 2 ^ e = c * 10 ^ k := by
      rw [val, mul_assoc, mul_assoc, signed_eq_iff (by positivity) (by positivity)]
    simp only [hval, Bool.and_eq_true, decide_eq_true_eq, ← mul_zpow_eq_iff, and_assoc]
    refine and_congr_right fun _ => ⟨fun h => h.2.2, fun h => ?_⟩
    obtain ⟨hlower, hupper⟩ := leadingExponent_bounds hm hc hx h
    exact ⟨hlower, hupper, h⟩

/-- A number is equal to a decimal that denotes the same. -/
theorem equalsDecimal_iff {d : Decimal} (hx : x.IsProper) :
    x.equalsDecimal d = true ↔ ∃ q, x.quantity? = some q ∧ d.quantity? = some q := by
  cases x with
  | nan => simp [equalsDecimal, quantity?]
  | infinite s =>
    rw [Quantity.exists_iff (quantity?_infinite s)]
    cases d <;> simp [equalsDecimal, Decimal.quantity?, Decimal.val?, eq_comm]
  | finite s m e =>
    rw [Quantity.exists_iff (quantity?_finite s m e)]
    cases d with
    | infinite | nan => simp [equalsDecimal, Decimal.quantity?]
    | finite t c k =>
      rw [Decimal.quantity?_finite, Option.some.injEq, Quantity.rational.injEq]
      exact (equalsDecimal_finite_iff hx).trans eq_comm

end Binary64

namespace Decimal

variable {a b : Decimal}

/-- Decimals are equal if they denote the same. -/
theorem sameNumber_iff :
    a.sameNumber b = true ↔ ∃ q, a.quantity? = some q ∧ b.quantity? = some q := by
  cases a with
  | nan => cases b <;> simp [sameNumber, compareFinite?, quantity?]
  | infinite s =>
    rw [Quantity.exists_iff (quantity?_infinite s)]
    cases b with
    | infinite t =>
      rw [quantity?_infinite, Option.some.injEq, Quantity.infinite.injEq]
      exact beq_iff_eq.trans eq_comm
    | finite | nan => simp [sameNumber, compareFinite?, quantity?, val?]
  | finite s c e =>
    rw [Quantity.exists_iff (quantity?_finite s c e)]
    cases b with
    | infinite | nan => simp [sameNumber, compareFinite?, quantity?]
    | finite t d f =>
      show (compareFinite? (finite s c e) (finite t d f) == some .eq) = true ↔ _
      rw [compareFinite?_eq rfl rfl, beq_iff_eq, Option.some.injEq, compare_eq_iff_eq, quantity?_finite,
        Option.some.injEq, Quantity.rational.injEq, eq_comm]

/-- An integer denotes itself as a decimal number. -/
theorem quantity?_ofInt (i : Int) : (ofInt i).quantity? = some (.rational i) :=
  congrArg (Option.map Quantity.rational) (val?_ofInt i)

/-- A decimal is equal to the integer that it denotes. -/
theorem intEqualsDecimal_iff {i : Int} :
    Value.intEqualsDecimal i a = true ↔ a.quantity? = some (.rational i) := by
  rw [Value.intEqualsDecimal, sameNumber_iff, Quantity.exists_iff (quantity?_ofInt i)]

end Decimal

namespace Value

variable {v w : Value}

/-- It denotes itself as a value. -/
theorem quantity?_int (i : Int) : (int i).quantity? = some (.rational i) := rfl

/-- A double precision number is equal to the integer that it denotes. -/
theorem intEqualsFloat_iff {i : Int} {x : Binary64} :
    intEqualsFloat i x = true ↔ x.quantity? = some (.rational i) :=
  beq_iff_eq.trans Binary64.toInt?_eq_some_iff

/-- True of values that are numbers, of the forms in which numbers are kept. -/
def IsProperNumber : Value → Prop
  | bool _ | int _ | decimal _ => True
  | float x => x.IsProper
  | _ => False

/-- A truth value denotes the same as the number that it counts as. -/
theorem quantity?_asNumber : v.asNumber.quantity? = v.quantity? := by
  cases v with
  | bool b => cases b <;> rfl
  | _ => rfl

/-- A number is an integer, a double precision number or a decimal, if truth values are read as integers. -/
theorem IsProperNumber.asNumber_cases (h : v.IsProperNumber) : (∃ i, v.asNumber = int i) ∨
    (∃ x, v.asNumber = float x ∧ x.IsProper) ∨ ∃ d, v.asNumber = decimal d := by
  cases v with
  | bool b => exact .inl ⟨_, rfl⟩
  | int i => exact .inl ⟨i, rfl⟩
  | float x => exact .inr (.inl ⟨x, rfl, h⟩)
  | decimal d => exact .inr (.inr ⟨d, rfl⟩)
  | _ => cases h

/-- **Numbers are equal if they denote the same**, whatever their kinds are. -/
theorem sameNumber_iff (hv : v.IsProperNumber) (hw : w.IsProperNumber) :
    sameNumber v.asNumber w.asNumber = true ↔ ∃ q, v.quantity? = some q ∧ w.quantity? = some q := by
  rw [← quantity?_asNumber (v := v), ← quantity?_asNumber (v := w)]
  -- Numbers of two kinds are compared by one function, whichever of them stands first.
  rcases hv.asNumber_cases with ⟨i, hi⟩ | ⟨x, hx, hproper⟩ | ⟨d, hd⟩ <;>
    rcases hw.asNumber_cases with ⟨j, hj⟩ | ⟨y, hy, hproper'⟩ | ⟨e, he⟩
  · rw [hi, hj, Quantity.exists_iff (quantity?_int i), quantity?_int, Option.some.injEq,
      Quantity.rational.injEq, Int.cast_inj]
    exact beq_iff_eq.trans eq_comm
  · rw [hi, hy, Quantity.exists_iff (quantity?_int i)]
    exact intEqualsFloat_iff
  · rw [hi, he, Quantity.exists_iff (quantity?_int i)]
    exact Decimal.intEqualsDecimal_iff
  · simp only [hx, hj, and_comm (b := (int j).quantity? = _)]
    rw [Quantity.exists_iff (quantity?_int j)]
    exact intEqualsFloat_iff
  · rw [hx, hy]
    exact Binary64.sameNumber_iff hproper hproper'
  · rw [hx, he]
    exact Binary64.equalsDecimal_iff hproper
  · simp only [hd, hj, and_comm (b := (int j).quantity? = _)]
    rw [Quantity.exists_iff (quantity?_int j)]
    exact Decimal.intEqualsDecimal_iff
  · simp only [hd, hy, and_comm (b := (float y).quantity? = _)]
    exact Binary64.equalsDecimal_iff hproper'
  · rw [hd, he]
    exact Decimal.sameNumber_iff

end Value

end RecordRules
