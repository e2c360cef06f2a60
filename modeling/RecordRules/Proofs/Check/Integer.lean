import RecordRules.Proofs.Check.Passing
import RecordRules.Proofs.Number.Spelling

/-!
# Integers of 64 bits

The rule `integer` is passed by the integers from `-2^63` to `2^63 - 1` and by the texts in which one of
them is written without leading zeros (`Check.integer_exact`). Such a text is numeric text, but for the
white space around it: the rule leaves out white space of any script, numeric text has only that of
ASCII. So a value that passes `integer` passes `numeric` if its white space is that of ASCII
(`Check.numeric_of_integer_iff`), and otherwise it does not (`Check.integer_not_numeric`).
-/

namespace RecordRules

variable {s t : List Char} {n : Int}

/-! ## Texts of integers -/

/-- The texts of an integer without leading zeros: its digits, after a minus sign if it is negative and
perhaps after a plus sign if it is not; zero may have a minus sign. -/
def Number.IsTextOf (n : Int) (t : List Char) : Prop :=
  t = (integerText n).toList ∨ (0 ≤ n ∧ t = '+' :: (integerText n).toList) ∨ (n = 0 ∧ t = ['-', '0'])

/-- A sign is taken off the digits that it stands before. -/
theorem Number.splitSign_written (sign : Sign) (m : Nat) :
    splitSign (sign.text ++ written m) = (sign.isNegative, written m) :=
  sign.splitSign_text fun _ hc => Sign.ne_of_isDigit (isDigit_of_mem_written (List.mem_of_mem_head? hc))

/-- A text of an integer is a sign with the digits of a natural number. -/
theorem Number.isTextOf_iff :
    IsTextOf n t ↔ ∃ (sign : Sign) (m : Nat), t = sign.text ++ written m ∧ signed sign.isNegative m = n := by
  constructor
  · rintro (rfl | ⟨hn, rfl⟩ | ⟨rfl, rfl⟩)
    · rw [toList_integerText]
      by_cases h : n < 0
      · refine ⟨.minus, n.natAbs, by rw [if_pos h]; rfl, ?_⟩
        show -(n.natAbs : Int) = n
        omega
      · refine ⟨.absent, n.natAbs, by rw [if_neg h]; rfl, ?_⟩
        show (n.natAbs : Int) = n
        omega
    · refine ⟨.plus, n.natAbs, ?_, ?_⟩
      · rw [toList_integerText, if_neg (not_lt.2 hn)]
        rfl
      · show (n.natAbs : Int) = n
        omega
    · exact ⟨.minus, 0, rfl, rfl⟩
  · rintro ⟨sign, m, rfl, rfl⟩
    cases sign with
    | absent =>
      refine .inl ?_
      show written m = (integerText (m : Int)).toList
      rw [toList_integerText, if_neg (by omega), Int.natAbs_natCast]
    | plus =>
      refine .inr (.inl ⟨Int.natCast_nonneg m, ?_⟩)
      show '+' :: written m = '+' :: (integerText (m : Int)).toList
      rw [toList_integerText, if_neg (by omega), Int.natAbs_natCast]
    | minus =>
      rcases Nat.eq_zero_or_pos m with rfl | hm
      · exact .inr (.inr ⟨rfl, rfl⟩)
      · refine .inl ?_
        show '-' :: written m = (integerText (-(m : Int))).toList
        rw [toList_integerText, if_pos (by omega), Int.natAbs_neg, Int.natAbs_natCast]

/-- The text of an integer is a text of no other integer. -/
theorem Number.IsTextOf.eq {m : Int} (h : IsTextOf m (integerText n).toList) : m = n := by
  obtain ⟨sign, k, htext, rfl⟩ := isTextOf_iff.1 h
  have hparts := congrArg splitSign htext
  rw [splitSign_integerText, splitSign_written, Prod.mk.injEq] at hparts
  obtain ⟨hsign, hdigits⟩ := hparts
  have hmagnitude : n.natAbs = k := by rw [← ofDigits_written n.natAbs, hdigits, ofDigits_written]
  rw [← hsign, ← hmagnitude, signed_natAbs]

namespace Check

/-- The integers of 64 bits. -/
theorem fitsInt64_iff : fitsInt64 n = true ↔ -2 ^ 63 ≤ n ∧ n ≤ 2 ^ 63 - 1 := by
  rw [fitsInt64, Bool.and_eq_true, decide_eq_true_eq, decide_eq_true_eq]
  norm_num

/-- An integer of 64 bits is not too long to be read. -/
theorem length_written_le {sign : Sign} {m : Nat}
    (h : fitsInt64 (Number.signed sign.isNegative m) = true) : (Number.written m).length ≤ 20 := by
  obtain ⟨hlower, hupper⟩ := fitsInt64_iff.1 h
  have hlt : m < 10 ^ 20 := by
    cases sign with
    | minus =>
      have hle : -2 ^ 63 ≤ -(m : Int) := hlower
      omega
    | absent | plus =>
      have hle : (m : Int) ≤ 2 ^ 63 - 1 := hupper
      omega
  exact (Nat.length_toDigits_le_iff (by decide) (by decide)).2 hlt

/-- A sign and digits without leading zeros are read as a number, unless they are too long. -/
theorem isInteger64Text_written {sign : Sign} {m : Nat} (h : Text.trim s = sign.text ++ Number.written m) :
    isInteger64Text s =
      if Number.digitLimit < (Number.written m).length then .error (.tooManyDigits (Number.written m).length)
      else .ok (fitsInt64 (Number.signed sign.isNegative m)) := by
  rw [isInteger64Text, h, Number.splitSign_written]
  simp only [isCanonical_written, if_true, Number.ofDigits_written]

/-- **A text is an integer of 64 bits** if trimming leaves a text of one. -/
theorem isInteger64Text_iff :
    isInteger64Text s = .ok true ↔ ∃ n : Int, fitsInt64 n = true ∧ Number.IsTextOf n (Text.trim s) := by
  constructor
  · intro h
    obtain ⟨sign, htrim, -⟩ := Sign.exists_splitSign (Text.trim s)
    obtain ⟨digits, hdigits⟩ : ∃ digits, (Number.splitSign (Text.trim s)).2 = digits := ⟨_, rfl⟩
    rw [hdigits] at htrim
    cases hcanonical : isCanonical digits with
    | false =>
      simp only [isInteger64Text, hdigits, hcanonical, Bool.false_eq_true, if_false] at h
      cases h
    | true =>
      rw [eq_written_of_isCanonical hcanonical] at htrim
      rw [isInteger64Text_written htrim] at h
      split at h
      · cases h
      · exact ⟨_, Except.ok.inj h, Number.isTextOf_iff.2 ⟨sign, _, htrim, rfl⟩⟩
  · rintro ⟨n, hfits, htext⟩
    obtain ⟨sign, m, htrim, rfl⟩ := Number.isTextOf_iff.1 htext
    have hlimit : ¬Number.digitLimit < (Number.written m).length := by
      have hle := length_written_le hfits
      show ¬4300 < (Number.written m).length
      omega
    rw [isInteger64Text_written htrim, if_neg hlimit, hfits]

section
variable {field : String} {record : Record} {param : Option String}

/-- A text passes when it is, up to white space around it, the text of an integer of 64 bits. -/
theorem integer_passes_iff {s : String} (hs : record.value field = .text s) (hne : s.toList ≠ []) :
    integer field record param = .ok none ↔
      ∃ n : Int, -2 ^ 63 ≤ n ∧ n ≤ 2 ^ 63 - 1 ∧ Number.IsTextOf n (Text.trim s.toList) := by
  have hblank : (record.value field).isBlank = false := by rw [hs, Value.isBlank_text hne]
  rw [integer, ofTest_passes_iff hblank, hs]
  show isInteger64Text s.toList = .ok true ↔ _
  simp only [isInteger64Text_iff, fitsInt64_iff, and_assoc]

/-- The rule `integer` has an answer for texts that are not too long. -/
theorem not_raises_integer {s : String} (hs : record.value field = .text s)
    (hlength : (Text.trim s.toList).length ≤ Number.digitLimit) :
    ¬ Raises (integer field record param) := by
  cases hblank : (record.value field).isBlank with
  | true =>
    rw [integer, ofTest_of_isBlank hblank]
    exact raises_ok none
  | false =>
    have hdigits : (Number.splitSign (Text.trim s.toList)).2.length ≤ Number.digitLimit :=
      Nat.le_trans Number.length_splitSign_le hlength
    rw [integer, raises_ofTest_iff hblank, hs]
    show ¬ Raises (isInteger64Text s.toList)
    rw [Builtin.raises_isInteger64Text, Builtin.isLongInteger]
    simp only [decide_eq_false (Nat.not_lt.2 hdigits), Bool.and_false, Bool.false_eq_true,
      not_false_eq_true]

/-- **The rule `integer` is exact**: it is passed by the integers of 64 bits, and by the texts that are a
text of one when they are trimmed; a text that is not too long has an answer. So the text of an integer
passes if the integer has 64 bits. -/
theorem integer_exact :
    (∀ n, record.value field = .int n →
        (integer field record param = .ok none ↔ -2 ^ 63 ≤ n ∧ n ≤ 2 ^ 63 - 1)) ∧
      (∀ s, record.value field = .text s → s ≠ "" →
        (integer field record param = .ok none ↔
          ∃ n : Int, -2 ^ 63 ≤ n ∧ n ≤ 2 ^ 63 - 1 ∧ Number.IsTextOf n (Text.trim s.toList))) ∧
      (∀ s, record.value field = .text s → (Text.trim s.toList).length ≤ Number.digitLimit →
        ¬ Raises (integer field record param)) ∧
      ∀ n, record.value field = .text (Number.integerText n) →
        (integer field record param = .ok none ↔ -2 ^ 63 ≤ n ∧ n ≤ 2 ^ 63 - 1) := by
  refine ⟨?_, ?_, fun s hs hlength => not_raises_integer hs hlength, ?_⟩
  · intro n hn
    have hblank : (record.value field).isBlank = false := by rw [hn]; rfl
    rw [integer, ofTest_passes_iff hblank, hn]
    show Except.ok (fitsInt64 n) = .ok true ↔ _
    rw [Except.ok.injEq, fitsInt64_iff]
  · intro s hs hne
    exact integer_passes_iff hs fun h => hne (String.toList_eq_nil_iff.1 h)
  · intro n hn
    rw [integer_passes_iff hn (Number.integerText_ne_nil n), Text.trim_integerText]
    constructor
    · rintro ⟨m, hlower, hupper, hm⟩
      rw [← hm.eq]
      exact ⟨hlower, hupper⟩
    · rintro ⟨hlower, hupper⟩
      exact ⟨n, hlower, hupper, .inl rfl⟩

/-- The limits of 64 bits, in white space or not, the text of an integer beyond them and a text with a
zero in front. -/
theorem integer_exact_limits :
    let record : Record := [("greatest", .int (2 ^ 63 - 1)), ("least", .text " -9223372036854775808\n"),
      ("beyond", .text (Number.integerText (2 ^ 63))), ("padded", .text "+007")]
    integer "greatest" record none = .ok none ∧ integer "least" record none = .ok none ∧
      integer "beyond" record none ≠ .ok none ∧ ¬ Raises (integer "padded" record none) ∧
      ¬∃ n : Int, -2 ^ 63 ≤ n ∧ n ≤ 2 ^ 63 - 1 ∧ Number.IsTextOf n (Text.trim "+007".toList) := by
  intro record
  have hleast : Number.IsTextOf (-2 ^ 63) (Text.trim " -9223372036854775808\n".toList) :=
    .inl (by decide)
  have hpadded : integer "padded" record none =
      .ok (some ⟨"padded", .text "+007", "integer", .null⟩) := rfl
  refine ⟨?_, ?_, ?_, ?_, ?_⟩
  · exact (integer_exact.1 (2 ^ 63 - 1) rfl).2 ⟨by norm_num, by norm_num⟩
  · exact (integer_exact.2.1 _ rfl (by decide)).2 ⟨-2 ^ 63, by norm_num, by norm_num, hleast⟩
  · intro h
    have hupper := ((integer_exact.2.2.2 (2 ^ 63) rfl).1 h).2
    norm_num at hupper
  · exact integer_exact.2.2.1 "+007" rfl (by decide)
  · intro h
    have hpasses : integer "padded" record none = .ok none :=
      (integer_exact.2.1 "+007" rfl (by decide)).2 h
    cases hpadded.symm.trans hpasses

end

end Check

/-! ## White space around numbers -/

/-- A text value has no white space but that of ASCII. -/
def Value.IsAsciiSpaced (v : Value) : Prop :=
  ∀ s, v = .text s → ∀ c ∈ s.toList, Text.isBlank c = true → Text.isAsciiBlank c = true

/-- A text that is a number has no other white space. -/
theorem Value.isAsciiSpaced_of_toDecimal? {v : Value} (h : v.toDecimal?.isSome = true) :
    v.IsAsciiSpaced := by
  rintro s rfl c hc hblank
  obtain ⟨d, hd⟩ := Option.isSome_iff_exists.1 h
  obtain ⟨numeral, hread, -⟩ := Option.bind_eq_some_iff.1 hd
  obtain ⟨w, hw⟩ := Numeral.exists_spelling hread
  rw [← hw, Spelling.text, List.mem_append, List.mem_append] at hc
  rcases hc with hc | hc | hc
  · exact w.isBlank_before c hc
  · rw [w.not_isBlank hc] at hblank
    cases hblank
  · exact w.isBlank_after c hc

section
variable {before after : List Char} {sign : Sign} {m : Nat}
  (hbefore : ∀ c ∈ before, Text.isAsciiBlank c = true)
  (hafter : ∀ c ∈ after, Text.isAsciiBlank c = true)

/-- An integer without leading zeros in white space. -/
def Spelling.ofWritten (sign : Sign) (m : Nat) : Spelling :=
  { before, sign, whole := Number.written m, fraction := none, power := none, after
    isBlank_before := hbefore
    isDigit_whole := fun _ => Number.isDigit_of_mem_written
    isDigit_fraction := by simp
    digits_ne_nil := .inl Nat.toDigits_ne_nil
    isBlank_after := hafter }

/-- The text of the spelling that an integer in its white space has. -/
theorem Spelling.text_ofWritten : (ofWritten hbefore hafter sign m).text =
    before ++ (sign.text ++ Number.written m ++ after) := by
  show before ++ (sign.text ++ (Number.written m ++ []) ++ after) = _
  rw [List.append_nil]

/-- It has no exponent, so only its length is to be bounded. -/
theorem Spelling.inBounds_ofWritten (h : (Number.written m).length ≤ 10 ^ 17) :
    (ofWritten hbefore hafter sign m).InBounds :=
  { exponent := Nat.pow_pos (by decide)
    whole := h
    places := Nat.zero_le _ }

end

/-- A text that is an integer of 64 bits is a number if its white space is that of ASCII. -/
theorem Value.isSome_toDecimal?_text {s : String} (h : Check.isInteger64Text s.toList = .ok true)
    (hspaced : (text s).IsAsciiSpaced) : (text s).toDecimal?.isSome = true := by
  obtain ⟨n, hfits, htext⟩ := Check.isInteger64Text_iff.1 h
  obtain ⟨sign, m, htrim, rfl⟩ := Number.isTextOf_iff.1 htext
  obtain ⟨before, after, hs, hbefore, hafter⟩ := Text.exists_stripped Text.isBlank s.toList
  rw [← Text.trim_eq_stripped, htrim] at hs
  have hascii : ∀ c, c ∈ before ∨ c ∈ after → Text.isAsciiBlank c = true := by
    intro c hc
    refine hspaced s rfl c ?_ (hc.elim (hbefore c) (hafter c))
    rw [hs, List.mem_append, List.mem_append]
    exact hc.imp_right .inr
  have hleft : ∀ c ∈ before, Text.isAsciiBlank c = true := fun c hc => hascii c (.inl hc)
  have hright : ∀ c ∈ after, Text.isAsciiBlank c = true := fun c hc => hascii c (.inr hc)
  have hw : (Spelling.ofWritten hleft hright sign m).text = s.toList := by
    rw [Spelling.text_ofWritten, hs]
  have hlength : (Number.written m).length ≤ 10 ^ 17 :=
    Nat.le_trans (Check.length_written_le hfits) (by norm_num)
  rw [toDecimal?_of_inBounds hw (Spelling.inBounds_ofWritten hleft hright hlength)]
  rfl

/-- A whole number in double precision is a decimal number. -/
theorem Binary64.isSome_toDecimal? {x : Binary64} {n : Int} (h : x.toInt? = some n) :
    x.toDecimal?.isSome = true := by
  cases x with
  | finite negative m e =>
    rw [toDecimal?]
    split
    · rfl
    · split
      dsimp only
      split <;> rfl
  | infinite _ | nan => cases h

/-- An integer of 64 bits is a number if its white space is that of ASCII. -/
theorem Value.isSome_toDecimal? {v : Value} (h : Check.isInteger64 v = .ok true)
    (hspaced : v.IsAsciiSpaced) : v.toDecimal?.isSome = true := by
  cases v with
  | int n => rfl
  | float x =>
    obtain ⟨n, hn, -⟩ := (Option.any_eq_true _ _).1 (Except.ok.inj h)
    exact Binary64.isSome_toDecimal? hn
  | text s => exact isSome_toDecimal?_text h hspaced
  | _ => cases h

namespace Check

section
variable {field : String} {record : Record} {param param' : Option String}

/-- A value is numeric when a number can be read from it. -/
theorem numeric_passes_iff (hblank : (record.value field).isBlank = false) :
    numeric field record param = .ok none ↔ (record.value field).toDecimal?.isSome = true := by
  rw [numeric, ofTest_passes_iff hblank, Except.ok.injEq]

/-- And it is a float under the same condition. -/
theorem float_passes_iff (hblank : (record.value field).isBlank = false) :
    float field record param = .ok none ↔ (record.value field).toDecimal?.isSome = true := by
  rw [float, ofTest_passes_iff hblank, Except.ok.injEq]

/-- **The rules on numbers**: what passes `integer` passes `numeric` if its white space is that of
ASCII, and not otherwise; `float` is passed by what passes `numeric`. -/
theorem numeric_of_integer_iff :
    (integer field record param = .ok none →
        (numeric field record param' = .ok none ↔ (record.value field).IsAsciiSpaced)) ∧
      (float field record param = .ok none ↔ numeric field record param' = .ok none) := by
  cases hblank : (record.value field).isBlank with
  | true =>
    have hspaced : (record.value field).IsAsciiSpaced := by
      intro s hs c hc
      rw [hs, Value.isBlank_text (List.ne_nil_of_mem hc)] at hblank
      cases hblank
    rw [numeric, float, ofTest_of_isBlank hblank, ofTest_of_isBlank hblank]
    exact ⟨fun _ => iff_of_true rfl hspaced, .rfl⟩
  | false =>
    rw [integer, ofTest_passes_iff hblank, numeric_passes_iff hblank, float_passes_iff hblank]
    exact ⟨fun h => ⟨Value.isAsciiSpaced_of_toDecimal?, Value.isSome_toDecimal? h⟩, .rfl⟩

/-- A number in white space. -/
theorem numeric_of_integer_iff_spaced :
    integer "n" [("n", .text " 7 ")] none = .ok none ∧
      numeric "n" [("n", .text " 7 ")] none = .ok none ∧
      float "n" [("n", .text " 7 ")] none = .ok none := by
  have hinteger : integer "n" [("n", .text " 7 ")] none = .ok none := rfl
  have hspaced : (Record.value [("n", .text " 7 ")] "n").IsAsciiSpaced := by
    rintro _ ⟨rfl⟩ c hc hblank
    have hcases : c = ' ' ∨ c = '7' ∨ c = ' ' := by simpa using hc
    rcases hcases with rfl | rfl | rfl
    · rfl
    · cases hblank
    · rfl
  have hnumeric : numeric "n" [("n", .text " 7 ")] none = .ok none :=
    (numeric_of_integer_iff.1 hinteger).2 hspaced
  exact ⟨hinteger, hnumeric, numeric_of_integer_iff.2.2 hnumeric⟩

/-- After a no-break space there is an integer and no number. -/
theorem integer_not_numeric :
    let record : Record := [("n", .text "\u00a05")]
    integer "n" record none = .ok none ∧
      numeric "n" record none = .ok (some ⟨"n", .text "\u00a05", "numeric", .null⟩) :=
  ⟨rfl, rfl⟩

end

end Check

end RecordRules
