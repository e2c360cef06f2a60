import Mathlib.Algebra.Group.Nat.Even
import Mathlib.Data.Nat.Digits.Lemmas
import RecordRules.Check.Checksum

/-!
# The checksum of card numbers

A card number is in order when its digits, weighed from the right, sum up to a multiple of ten: those at
odd positions count once, the others with the digit sum of their double (`Check.luhn_textbook`). The sum
itself is taken from the left, where a digit at the end moves all the others to other positions;
`Check.sumFrom_reverse` turns it round. From the right a last digit only adds its value, so every text has
one check digit (`Check.existsUnique_checkDigit`). At any position a digit is known from what it counts
modulo ten, so a wrong digit is noticed, and so are two neighbours that changed places, unless they are 0
and 9 (`Check.luhn_detects`).
-/

namespace RecordRules.Check

/-! ## Digits -/

/-- The values of the ASCII digits of a text. -/
def digitValues (s : List Char) : List Nat := (s.filter Char.isDigit).map digitValue

section
variable {s t : List Char} {c d : Char} {n : Nat}

/-- A digit is less than ten. -/
theorem digitValue_lt (h : c.isDigit = true) : digitValue c < 10 := by
  have hrange : 48 ≤ c.toNat ∧ c.toNat ≤ 57 := Char.isDigit_iff_toNat.1 h
  rw [digitValue]
  omega

/-- Digits with one value are one digit. -/
theorem digitValue_inj (hc : c.isDigit = true) (hd : d.isDigit = true) :
    digitValue c = digitValue d ↔ c = d := by
  have hcrange : 48 ≤ c.toNat ∧ c.toNat ≤ 57 := Char.isDigit_iff_toNat.1 hc
  have hdrange : 48 ≤ d.toNat ∧ d.toNat ≤ 57 := Char.isDigit_iff_toNat.1 hd
  rw [← Char.toNat_inj, digitValue, digitValue]
  omega

/-- Every value below ten is that of a digit. -/
theorem exists_digitValue_eq (h : n < 10) : ∃ c : Char, c.isDigit = true ∧ digitValue c = n := by
  have hcode : (Nat.digitChar n).toNat = 48 + n := Nat.toNat_digitChar_of_lt_ten h
  refine ⟨Nat.digitChar n, ?_, ?_⟩
  · rw [Char.isDigit_iff_toNat, hcode]
    show 48 ≤ 48 + n ∧ 48 + n ≤ 57
    omega
  · rw [digitValue, hcode]
    omega

/-- The digits of a text are those of its parts, one after the other. -/
theorem digitValues_append : digitValues (s ++ t) = digitValues s ++ digitValues t := by
  rw [digitValues, List.filter_append, List.map_append]
  rfl

/-- A digit in front of a text comes first. -/
theorem digitValues_cons (h : c.isDigit = true) :
    digitValues (c :: s) = digitValue c :: digitValues s := by
  rw [digitValues, List.filter_cons_of_pos h, List.map_cons]
  rfl

/-- A digit is the one digit of its text. -/
theorem digitValues_singleton (h : c.isDigit = true) : digitValues [c] = [digitValue c] :=
  digitValues_cons h

/-- A text has no digits when none of its characters is one. -/
theorem digitValues_eq_nil_iff : digitValues s = [] ↔ ∀ c ∈ s, c.isDigit = false := by
  simp [digitValues]

/-- The digits of a text are less than ten. -/
theorem lt_of_mem_digitValues (h : n ∈ digitValues s) : n < 10 := by
  obtain ⟨c, hc, rfl⟩ := List.mem_map.1 h
  exact digitValue_lt (List.mem_filter.1 hc).2

end

/-! ## The sum from a position on -/

/-- What a digit counts at a position. -/
def counted (position d : Nat) : Nat := if Even position then doubled d else d

/-- The sum of digits, the first of which stands at the given position and the others after it. -/
def sumFrom (position : Nat) (ds : List Nat) : Nat := luhnSum (decide (Even position)) ds

section
variable {k d e : Nat} {ds es : List Nat}

/-- The first digit counts by its place. -/
theorem sumFrom_cons : sumFrom k (d :: ds) = counted k d + sumFrom (k + 1) ds := by
  by_cases hk : Even k <;> simp [sumFrom, luhnSum, counted, hk, Nat.even_add_one]

/-- A single digit. -/
theorem sumFrom_singleton : sumFrom k [d] = counted k d := by
  rw [sumFrom_cons]
  rfl

/-- Two digits, of which one is doubled. -/
theorem sumFrom_pair : sumFrom k [d, e] = counted k d + counted (k + 1) e := by
  rw [sumFrom_cons, sumFrom_singleton]

/-- Digits after others count from where those end. -/
theorem sumFrom_append : sumFrom k (ds ++ es) = sumFrom k ds + sumFrom (k + ds.length) es := by
  induction ds generalizing k with
  | nil => exact (Nat.zero_add _).symm
  | cons d ds ih =>
    have hposition : k + 1 + ds.length = k + (ds.length + 1) := by omega
    rw [List.cons_append, sumFrom_cons, sumFrom_cons, ih, List.length_cons, hposition, Nat.add_assoc]

/-- Only whether the place is even matters. -/
theorem sumFrom_add_two : sumFrom (k + 2) ds = sumFrom k ds := by
  simp [sumFrom, Nat.even_add]

/-- Counting the positions from the left or from the right makes no difference when the first digit is
given the position that it has from the right. -/
theorem sumFrom_reverse : sumFrom ds.length ds = sumFrom 1 ds.reverse := by
  induction ds with
  | nil => rfl
  | cons d ds ih =>
    -- The other digits are counted from two places further on, which does not change their parity.
    rw [List.length_cons, List.reverse_cons, sumFrom_cons, sumFrom_add_two, sumFrom_append, ih,
      sumFrom_singleton, List.length_reverse, Nat.add_comm, Nat.add_comm ds.length]

/-- The sum as one over the digits with their places. -/
theorem sumFrom_eq_sum : sumFrom k ds = ((ds.zipIdx k).map fun p => counted p.2 p.1).sum := by
  induction ds generalizing k with
  | nil => rfl
  | cons d ds ih => rw [sumFrom_cons, ih, List.zipIdx_cons, List.map_cons, List.sum_cons]

/-- The double of a digit counts with its digit sum. -/
theorem doubled_eq_sum_digits : ∀ d < 10, doubled d = (Nat.digits 10 (2 * d)).sum := by
  decide

/-- What a digit counts modulo ten tells which digit it is. -/
theorem counted_mod_inj (hd : d < 10) (he : e < 10) :
    counted k d % 10 = counted k e % 10 ↔ d = e := by
  unfold counted doubled
  split_ifs <;> omega

/-- Two digits that change places count the same modulo ten if they are equal or 0 and 9. -/
theorem counted_mod_swap (hd : d < 10) (he : e < 10) :
    (counted k d + counted (k + 1) e) % 10 = (counted k e + counted (k + 1) d) % 10 ↔
      d = e ∨ (d = 0 ∧ e = 9) ∨ (d = 9 ∧ e = 0) := by
  simp only [counted, doubled, Nat.even_add_one]
  split_ifs <;> omega

end

/-! ## The sum of a text -/

section
variable {s t before mid mid' after : List Char}

/-- A text is in order when it has digits and their sum is a multiple of ten. -/
theorem luhn_iff : luhn s = true ↔
    digitValues s ≠ [] ∧ sumFrom (digitValues s).length (digitValues s) % 10 = 0 := by
  rw [luhn, Bool.and_eq_true, Bool.not_eq_true', List.isEmpty_eq_false_iff, beq_iff_eq, sumFrom]
  simp only [Nat.even_iff]
  rfl

/-- Only the digits of a text matter. -/
theorem luhn_congr (h : s.filter Char.isDigit = t.filter Char.isDigit) : luhn s = luhn t := by
  rw [luhn, luhn, h]

end

/-! ## The textbook definition -/

/-- The digits of a text weighed from the right, with positions counted from one: those at odd positions
count once, the others with the digit sum of their double. -/
def weighed (s : List Char) : List Nat :=
  ((digitValues s).reverse.zipIdx 1).map fun (d, position) =>
    if Odd position then d else (Nat.digits 10 (2 * d)).sum

/-- Weighed from the right, the digits sum up to what they count when the first one stands at the place
that is their number: the digit sum of a double is what doubling counts. -/
theorem sum_weighed {s : List Char} :
    (weighed s).sum = sumFrom (digitValues s).length (digitValues s) := by
  rw [sumFrom_reverse, sumFrom_eq_sum, weighed]
  refine congrArg List.sum (List.map_congr_left fun ⟨d, position⟩ hmem => ?_)
  have hd : d < 10 := lt_of_mem_digitValues (List.mem_reverse.1 (List.fst_mem_of_mem_zipIdx hmem))
  show (if Odd position then d else (Nat.digits 10 (2 * d)).sum) = counted position d
  rw [counted, ← doubled_eq_sum_digits d hd]
  by_cases hposition : Even position
  · rw [if_pos hposition, if_neg (Nat.not_odd_iff_even.2 hposition)]
  · rw [if_neg hposition, if_pos (Nat.not_even_iff_odd.1 hposition)]

/-- **The checksum is that of the textbook**: a text is in order when it has a digit and its digits,
weighed from the right, sum up to a multiple of ten. Whatever else stands in the text has no effect. -/
theorem luhn_textbook :
    (∀ s, luhn s = true ↔ (∃ c ∈ s, c.isDigit = true) ∧ 10 ∣ (weighed s).sum) ∧
      ∀ before c after, c.isDigit = false → luhn (before ++ c :: after) = luhn (before ++ after) := by
  constructor
  · intro s
    have hdigits : digitValues s ≠ [] ↔ ∃ c ∈ s, c.isDigit = true := by
      simp [digitValues_eq_nil_iff]
    rw [luhn_iff, hdigits, sum_weighed, Nat.dvd_iff_mod_eq_zero]
  · intro before c after hc
    refine luhn_congr ?_
    rw [List.filter_append, List.filter_append, List.filter_cons_of_neg (by simp [hc])]

/-- A card number in groups of four, and with an Arabic digit among them. -/
theorem luhn_textbook_grouped :
    let before := "4111 1111 ".toList
    let after := "1111 1111".toList
    (weighed (before ++ after)).sum = 30 ∧ luhn (before ++ after) = true ∧
      luhn (before ++ '\u0665' :: after) = true := by
  intro before after
  have hsum : (weighed (before ++ after)).sum = 30 := by decide
  have hvalid : luhn (before ++ after) = true :=
    (luhn_textbook.1 _).2 ⟨⟨'4', by decide, rfl⟩, by rw [hsum]; decide⟩
  exact ⟨hsum, hvalid, (luhn_textbook.2 before '\u0665' after rfl).trans hvalid⟩

/-! ## Wrong digits and digits in the wrong order -/

section
variable {before mid mid' after : List Char}

/-- A text that is in order stays so when a part of it is exchanged for one of as many digits that count
the same modulo ten, and only then. -/
theorem luhn_exchange (hvalid : luhn (before ++ (mid ++ after)) = true)
    (hlength : (digitValues mid').length = (digitValues mid).length) :
    ∃ position, luhn (before ++ (mid' ++ after)) = true ↔
      sumFrom position (digitValues mid') % 10 = sumFrom position (digitValues mid) % 10 := by
  -- Both texts have as many digits, so the part begins at the same position in both.
  obtain ⟨first, hfirst⟩ : ∃ n, (digitValues (before ++ (mid ++ after))).length = n := ⟨_, rfl⟩
  have hfirst' : (digitValues (before ++ (mid' ++ after))).length = first := by
    simpa [digitValues_append, hlength] using hfirst
  refine ⟨first + (digitValues before).length, ?_⟩
  rw [luhn_iff, hfirst] at hvalid
  obtain ⟨hne, hsum⟩ := hvalid
  have hne' : digitValues (before ++ (mid' ++ after)) ≠ [] := by
    rw [← List.length_pos_iff, hfirst', ← hfirst]
    exact List.length_pos_iff.2 hne
  rw [luhn_iff, hfirst', and_iff_right hne']
  simp only [digitValues_append, sumFrom_append, hlength] at hsum ⊢
  omega

variable {between : List Char} {c d : Char}

/-- A digit in a text that is in order cannot be exchanged for another one. -/
theorem luhn_replace (hc : c.isDigit = true) (hd : d.isDigit = true) (hne : c ≠ d)
    (hvalid : luhn (before ++ c :: after) = true) : luhn (before ++ d :: after) = false := by
  have hlength : (digitValues [d]).length = (digitValues [c]).length := by
    rw [digitValues_singleton hc, digitValues_singleton hd]
    rfl
  have hparts : luhn (before ++ ([c] ++ after)) = true := hvalid
  obtain ⟨position, hexchange⟩ := luhn_exchange hparts hlength
  rw [digitValues_singleton hc, digitValues_singleton hd, sumFrom_singleton, sumFrom_singleton,
    counted_mod_inj (digitValue_lt hd) (digitValue_lt hc), digitValue_inj hd hc] at hexchange
  rw [← Bool.not_eq_true]
  exact fun h => hne (hexchange.1 h).symm

/-- Two digits in a text that is in order, with no digit between them, can change places if they are equal
or 0 and 9. -/
theorem luhn_swap_iff (hc : c.isDigit = true) (hd : d.isDigit = true)
    (hbetween : ∀ e ∈ between, e.isDigit = false)
    (hvalid : luhn (before ++ c :: (between ++ d :: after)) = true) :
    luhn (before ++ d :: (between ++ c :: after)) = true ↔
      d = c ∨ (d = '0' ∧ c = '9') ∨ (d = '9' ∧ c = '0') := by
  have hparts (x y : Char) : before ++ x :: (between ++ y :: after) =
      before ++ (x :: (between ++ [y]) ++ after) := by simp
  have hpair {x y : Char} (hx : x.isDigit = true) (hy : y.isDigit = true) :
      digitValues (x :: (between ++ [y])) = [digitValue x, digitValue y] := by
    rw [digitValues_cons hx, digitValues_append, digitValues_eq_nil_iff.2 hbetween,
      digitValues_singleton hy]
    rfl
  have hlength : (digitValues (d :: (between ++ [c]))).length =
      (digitValues (c :: (between ++ [d]))).length := by
    rw [hpair hc hd, hpair hd hc]
    rfl
  rw [hparts] at hvalid ⊢
  obtain ⟨position, hexchange⟩ := luhn_exchange hvalid hlength
  rw [hpair hc hd, hpair hd hc, sumFrom_pair, sumFrom_pair,
    counted_mod_swap (digitValue_lt hd) (digitValue_lt hc)] at hexchange
  have hzero {e : Char} (he : e.isDigit = true) : digitValue e = 0 ↔ e = '0' :=
    digitValue_inj (d := '0') he rfl
  have hnine {e : Char} (he : e.isDigit = true) : digitValue e = 9 ↔ e = '9' :=
    digitValue_inj (d := '9') he rfl
  rw [hexchange, digitValue_inj hd hc, hzero hd, hnine hc, hnine hd, hzero hc]

/-- **Errors are detected**: in a text that is in order, no digit can be exchanged for another one, and
two different digits with no digit between them can change places only if they are 0 and 9. -/
theorem luhn_detects (hc : c.isDigit = true) (hd : d.isDigit = true) (hne : c ≠ d) :
    (luhn (before ++ c :: after) = true → luhn (before ++ d :: after) = false) ∧
      ∀ between, (∀ e ∈ between, e.isDigit = false) →
        luhn (before ++ c :: (between ++ d :: after)) = true →
        (luhn (before ++ d :: (between ++ c :: after)) = true ↔
          (d = '0' ∧ c = '9') ∨ (d = '9' ∧ c = '0')) := by
  refine ⟨luhn_replace hc hd hne, fun between hbetween hvalid => ?_⟩
  rw [luhn_swap_iff hc hd hbetween hvalid]
  exact or_iff_right hne.symm

/-- In `79927398713` a 2 is exchanged for a 5, then it changes places with the 7 after it. In `400-97` a 0
and a 9 change places across a hyphen. -/
theorem luhn_detects_errors :
    luhn "79927398713".toList = true ∧ luhn "79957398713".toList = false ∧
      luhn "79972398713".toList = false ∧
      luhn "400-97".toList = true ∧ luhn "409-07".toList = true := by
  have hvalid : luhn ("799".toList ++ '2' :: "7398713".toList) = true := rfl
  have hreplaced : luhn ("799".toList ++ '5' :: "7398713".toList) = false :=
    (luhn_detects rfl rfl (by decide)).1 hvalid
  have hpair : luhn ("799".toList ++ '2' :: ([] ++ '7' :: "398713".toList)) = true := rfl
  have hswapped : ¬luhn ("799".toList ++ '7' :: ([] ++ '2' :: "398713".toList)) = true := by
    rw [(luhn_detects rfl rfl (by decide)).2 [] (by simp) hpair]
    decide
  have hseparated : luhn ("40".toList ++ '0' :: (['-'] ++ '9' :: "7".toList)) = true := rfl
  have hmissed : luhn ("40".toList ++ '9' :: (['-'] ++ '0' :: "7".toList)) = true :=
    ((luhn_detects rfl rfl (by decide)).2 ['-'] (by simp) hseparated).2 (.inr ⟨rfl, rfl⟩)
  exact ⟨hvalid, hreplaced, Bool.eq_false_iff.2 hswapped, hseparated, hmissed⟩

end

/-! ## Check digits -/

/-- A digit at the end adds its value to the sum of the others, which stand at even positions first. -/
theorem luhn_concat_iff {s : List Char} {c : Char} (hc : c.isDigit = true) :
    luhn (s ++ [c]) = true ↔ (digitValue c + sumFrom 2 (digitValues s).reverse) % 10 = 0 := by
  have hvalues : digitValues (s ++ [c]) = digitValues s ++ [digitValue c] := by
    rw [digitValues_append, digitValues_singleton hc]
  rw [luhn_iff, sumFrom_reverse, hvalues, List.reverse_append, List.reverse_singleton,
    List.singleton_append, sumFrom_cons]
  simp [counted]

/-- **Check digits**: for every text there is exactly one digit that puts it in order when it is appended,
and it is the same for all texts with the same digits, whatever else stands among them. -/
theorem existsUnique_checkDigit (s : List Char) :
    (∃! c : Char, c.isDigit = true ∧ luhn (s ++ [c]) = true) ∧
      ∀ t, t.filter Char.isDigit = s.filter Char.isDigit → ∀ c, luhn (t ++ [c]) = luhn (s ++ [c]) := by
  constructor
  · obtain ⟨sum, hsum⟩ : ∃ n, sumFrom 2 (digitValues s).reverse = n := ⟨_, rfl⟩
    obtain ⟨c, hc, hvalue⟩ := exists_digitValue_eq (n := (10 - sum % 10) % 10) (by omega)
    refine ⟨c, ⟨hc, ?_⟩, ?_⟩
    · rw [luhn_concat_iff hc, hsum, hvalue]
      omega
    · rintro d ⟨hd, hvalid⟩
      have hlt := digitValue_lt hd
      rw [luhn_concat_iff hd, hsum] at hvalid
      rw [← digitValue_inj hd hc, hvalue]
      omega
  · intro t ht c
    exact luhn_congr (by rw [List.filter_append, List.filter_append, ht])

/-- Spaces and hyphens do not change the check digit. -/
theorem existsUnique_checkDigit_separated :
    (∃! c : Char, c.isDigit = true ∧ luhn ("7992739871".toList ++ [c]) = true) ∧
      luhn ("7992739871".toList ++ ['3']) = true ∧ luhn ("799-2739 871".toList ++ ['3']) = true := by
  have hvalid : luhn ("7992739871".toList ++ ['3']) = true := rfl
  obtain ⟨hunique, hsame⟩ := existsUnique_checkDigit "7992739871".toList
  exact ⟨hunique, hvalid, (hsame "799-2739 871".toList (by decide) '3').trans hvalid⟩

end RecordRules.Check
