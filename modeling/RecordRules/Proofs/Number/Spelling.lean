import Mathlib.Tactic.FieldSimp
import RecordRules.Proofs.Number.Order
import RecordRules.Proofs.Number.Written

/-!
# The grammar of numeric text

A numeric text is put together from parts: ASCII white space, a sign, digits with an optional point
among them, a power of ten, and ASCII white space (`Spelling`). The parts say which rational number is
written (`Spelling.val`). Reading numbers accepts the texts of spellings and no others
(`Numeral.read?_eq_some_iff`), and the decimal that is read denotes the number that is written
(`Value.toDecimal?_spelled`), as long as the powers of ten fit a decimal.
-/

namespace RecordRules

/-! ## Signs -/

/-- A sign as it is written in front of digits. -/
inductive Sign
  | absent
  | plus
  | minus
  deriving DecidableEq

namespace Sign

/-- The characters of a sign. -/
def text : Sign → List Char
  | absent => []
  | plus => ['+']
  | minus => ['-']

/-- True of the minus sign. -/
def isNegative : Sign → Bool
  | minus => true
  | _ => false

variable {s : List Char} {c : Char}

/-- A sign is written as plus or minus. -/
theorem eq_of_mem_text {sign : Sign} (h : c ∈ sign.text) : c = '+' ∨ c = '-' := by
  cases sign with
  | absent => cases h
  | plus => exact .inl (List.mem_singleton.1 h)
  | minus => exact .inr (List.mem_singleton.1 h)

/-- A sign is split off from a text that has no other sign in front. -/
theorem splitSign_text (sign : Sign) (h : ∀ c ∈ s.head?, c ≠ '+' ∧ c ≠ '-') :
    Number.splitSign (sign.text ++ s) = (sign.isNegative, s) := by
  cases sign with
  | plus | minus => rfl
  | absent =>
    show Number.splitSign s = (false, s)
    unfold Number.splitSign
    split
    · exact absurd rfl (h '-' rfl).2
    · exact absurd rfl (h '+' rfl).1
    · rfl

/-- What is split off from a text is a sign. -/
theorem exists_splitSign (s : List Char) :
    ∃ sign : Sign, s = sign.text ++ (Number.splitSign s).2 ∧
      (Number.splitSign s).1 = sign.isNegative := by
  unfold Number.splitSign
  split
  · exact ⟨minus, rfl, rfl⟩
  · exact ⟨plus, rfl, rfl⟩
  · exact ⟨absent, rfl, rfl⟩

end Sign

/-! ## Spellings -/

/-- A power of ten as it is written: a letter, a sign and digits. -/
structure Power where
  letter : Char
  sign : Sign
  digits : List Char
  letter_eq : letter = 'e' ∨ letter = 'E'
  digits_ne_nil : digits ≠ []
  isDigit : ∀ c ∈ digits, c.isDigit = true

namespace Power

/-- The characters of a power of ten; no power has none. -/
def text : Option Power → List Char
  | none => []
  | some p => p.letter :: (p.sign.text ++ p.digits)

/-- The exponent; that of no power is zero. -/
def exponent : Option Power → Int
  | none => 0
  | some p => Number.signed p.sign.isNegative (Nat.ofDigitChars 10 p.digits 0)

end Power

/-- A number as it is written: white space, a sign, digits before a point, a point with the digits after
it, a power of ten, and white space. There is a digit before or after the point, and the white space is
ASCII white space. -/
structure Spelling where
  before : List Char
  sign : Sign
  whole : List Char
  fraction : Option (List Char)
  power : Option Power
  after : List Char
  isBlank_before : ∀ c ∈ before, Text.isAsciiBlank c = true
  isDigit_whole : ∀ c ∈ whole, c.isDigit = true
  isDigit_fraction : ∀ c ∈ fraction.getD [], c.isDigit = true
  digits_ne_nil : whole ≠ [] ∨ fraction.getD [] ≠ []
  isBlank_after : ∀ c ∈ after, Text.isAsciiBlank c = true

namespace Spelling

/-- The characters of a point with the digits after it; no point has none. -/
def pointText : Option (List Char) → List Char
  | none => []
  | some ds => '.' :: ds

/-- The digits after the point. -/
def places (w : Spelling) : List Char := w.fraction.getD []

/-- The characters after the sign. -/
def unsignedText (w : Spelling) : List Char :=
  w.whole ++ (pointText w.fraction ++ Power.text w.power)

/-- The characters of a spelling. -/
def text (w : Spelling) : List Char := w.before ++ (w.sign.text ++ w.unsignedText ++ w.after)

/-- The power of ten that a spelling writes. -/
def exponent (w : Spelling) : Int := Power.exponent w.power

/-- The rational number that a spelling writes. -/
def val (w : Spelling) : ℚ :=
  (if w.sign.isNegative then -1 else 1) *
    (Nat.ofDigitChars 10 w.whole 0 + Nat.ofDigitChars 10 w.places 0 / 10 ^ w.places.length) *
    10 ^ w.exponent

/-- The parts of a spelling as values. -/
def numeral (w : Spelling) : Numeral :=
  ⟨w.sign.isNegative, Numeral.values w.whole, Numeral.values w.places, w.exponent⟩

end Spelling

/-! ## Reading what is written -/

section
variable {s rest ds : List Char} {c : Char} {p : Option Power} {w : Spelling} {n : Numeral}

/-- An exponent begins with its letter. -/
theorem Power.of_mem_head?_text (h : c ∈ (Power.text p).head?) : c = 'e' ∨ c = 'E' := by
  cases p with
  | none => cases h
  | some p =>
    obtain rfl : p.letter = c := Option.some.inj h
    exact p.letter_eq

/-- After the digits before the point there is a point, a power of ten or nothing. -/
theorem Spelling.of_mem_head?_rest {fraction : Option (List Char)}
    (h : c ∈ (pointText fraction ++ Power.text p).head?) : c = '.' ∨ c = 'e' ∨ c = 'E' := by
  cases fraction with
  | none => exact .inr (Power.of_mem_head?_text h)
  | some ds => exact .inl (Option.some.inj h).symm

/-- No digit follows the whole part: it ends where its digits end. -/
theorem Spelling.isDigit_head?_rest {fraction : Option (List Char)}
    (h : c ∈ (pointText fraction ++ Power.text p).head?) : c.isDigit = false := by
  rcases of_mem_head?_rest h with rfl | rfl | rfl <;> rfl

/-- No digit is a sign. -/
theorem Sign.ne_of_isDigit (h : c.isDigit = true) : c ≠ '+' ∧ c ≠ '-' := by
  constructor <;> rintro rfl <;> cases h

/-- A power of ten is read as its exponent. -/
theorem Numeral.exponentPart_text (p : Option Power) :
    exponentPart (Power.text p) = some (Power.exponent p) := by
  cases p with
  | none => rfl
  | some p =>
    have hletter : (p.letter == 'e' || p.letter == 'E') = true := by
      rcases p.letter_eq with h | h <;> rw [h] <;> rfl
    have hsign : Number.splitSign (p.sign.text ++ p.digits) = (p.sign.isNegative, p.digits) :=
      p.sign.splitSign_text fun c hc =>
        Sign.ne_of_isDigit (p.isDigit c (List.mem_of_mem_head? hc))
    obtain ⟨d, ds, hvalues⟩ :=
      List.exists_cons_of_ne_nil (mt values_eq_nil_iff.1 p.digits_ne_nil)
    rw [Power.text, exponentPart, if_pos hletter, hsign]
    simp only [digits_of_isDigit p.isDigit, hvalues]
    rw [← hvalues, ofDigits_values]
    rfl

/-- A text is read as an exponent only if it is a power of ten. -/
theorem Numeral.exists_power {e : Int} (h : exponentPart s = some e) :
    ∃ p : Option Power, s = Power.text p := by
  cases s with
  | nil => exact ⟨none, rfl⟩
  | cons c s =>
    rw [exponentPart] at h
    split at h
    · next hletter =>
      obtain ⟨sign, hsplit, -⟩ := Sign.exists_splitSign s
      obtain ⟨body, hbody⟩ : ∃ body, (Number.splitSign s).2 = body := ⟨_, rfl⟩
      rw [hbody] at hsplit
      simp only [hbody, digits_eq] at h
      split at h
      · next d ds hdigits =>
        obtain ⟨hvalues, hrest⟩ := Prod.mk.inj hdigits
        have hall : ∀ c ∈ body, c.isDigit = true := List.dropWhile_eq_nil_iff.1 hrest
        have hne : body ≠ [] := by
          rintro rfl
          cases hvalues
        refine ⟨some ⟨c, sign, body, ?_, hne, hall⟩, ?_⟩
        · simpa using hletter
        · rw [Power.text, hsplit]
      · cases h
    · cases h

/-- A point with digits is read as these digits. -/
theorem Numeral.fractionPart_text {fraction : Option (List Char)}
    (hdigits : ∀ c ∈ fraction.getD [], c.isDigit = true)
    (hrest : ∀ c ∈ rest.head?, c ≠ '.' ∧ c.isDigit = false) :
    fractionPart (Spelling.pointText fraction ++ rest) = (fraction.map values, rest) := by
  cases fraction with
  | none =>
    show fractionPart rest = (none, rest)
    unfold fractionPart
    split
    · exact absurd rfl (hrest '.' rfl).1
    · rfl
  | some ds =>
    have hread : digits (ds ++ rest) = (values ds, rest) :=
      digits_append hdigits fun c hc => (hrest c hc).2
    show fractionPart ('.' :: (ds ++ rest)) = (some (values ds), rest)
    rw [fractionPart, hread]

/-- What is read after the digits before a point is a point with digits, or nothing. -/
theorem Numeral.exists_fraction (s : List Char) :
    ∃ fraction : Option (List Char), s = Spelling.pointText fraction ++ (fractionPart s).2 ∧
      (fractionPart s).1 = fraction.map values ∧ ∀ c ∈ fraction.getD [], c.isDigit = true := by
  unfold fractionPart
  split
  · next s =>
    refine ⟨some (s.takeWhile Char.isDigit), ?_, ?_, ?_⟩
    · rw [digits_eq, Spelling.pointText, List.cons_append, List.takeWhile_append_dropWhile]
    · rw [digits_eq]
      rfl
    · exact List.all_eq_true.1 List.all_takeWhile
  · exact ⟨none, rfl, rfl, by simp⟩

/-- The part of a spelling after its sign is read as its values. -/
theorem Numeral.readUnsigned?_text (w : Spelling) :
    readUnsigned? w.sign.isNegative w.unsignedText = some w.numeral := by
  have hwhole : digits w.unsignedText =
      (values w.whole, Spelling.pointText w.fraction ++ Power.text w.power) :=
    digits_append w.isDigit_whole fun c hc => Spelling.isDigit_head?_rest hc
  have hfraction : fractionPart (Spelling.pointText w.fraction ++ Power.text w.power) =
      (w.fraction.map values, Power.text w.power) := by
    refine fractionPart_text w.isDigit_fraction fun c hc => ?_
    rcases Power.of_mem_head?_text hc with rfl | rfl <;> exact ⟨by decide, rfl⟩
  have hplaces : (w.fraction.map values).getD [] = values w.places := by
    rw [Spelling.places]
    cases w.fraction <;> rfl
  have hempty : ((values w.whole).isEmpty && (values w.places).isEmpty) = false := by
    rw [Bool.and_eq_false_iff, List.isEmpty_eq_false_iff, List.isEmpty_eq_false_iff]
    exact w.digits_ne_nil.imp (mt values_eq_nil_iff.1) (mt values_eq_nil_iff.1)
  simp only [readUnsigned?, hwhole, hfraction, hplaces, hempty, exponentPart_text]
  rfl

/-- The characters between the white space of a spelling. -/
theorem Spelling.of_mem_text (h : c ∈ w.sign.text ++ w.unsignedText) :
    c.isDigit = true ∨ c ∈ ['+', '-', '.', 'e', 'E'] := by
  have hsign : ∀ sign : Sign, c ∈ sign.text → c.isDigit = true ∨ c ∈ ['+', '-', '.', 'e', 'E'] := by
    intro sign hc
    rcases Sign.eq_of_mem_text hc with rfl | rfl <;> exact .inr (by decide)
  rw [unsignedText] at h
  rcases List.mem_append.1 h with h | h
  · exact hsign w.sign h
  rcases List.mem_append.1 h with h | h
  · exact .inl (w.isDigit_whole c h)
  rcases List.mem_append.1 h with h | h
  · have hdigits := w.isDigit_fraction
    cases hfraction : w.fraction with
    | none =>
      rw [hfraction] at h
      cases h
    | some ds =>
      rw [hfraction] at h hdigits
      rcases List.mem_cons.1 h with rfl | h
      · exact .inr (by decide)
      · exact .inl (hdigits c h)
  · cases hpower : w.power with
    | none =>
      rw [hpower] at h
      cases h
    | some p =>
      rw [hpower] at h
      rcases List.mem_cons.1 h with rfl | h
      · rcases p.letter_eq with h | h <;> rw [h] <;> exact .inr (by decide)
      · rcases List.mem_append.1 h with h | h
        · exact hsign p.sign h
        · exact .inl (p.isDigit c h)

/-- There is no white space within a spelling. -/
theorem Spelling.not_isBlank (h : c ∈ w.sign.text ++ w.unsignedText) : Text.isBlank c = false := by
  rcases of_mem_text h with h | h
  · exact Text.not_isBlank_of_isDigit h
  · simp only [List.mem_cons, List.not_mem_nil, or_false] at h
    rcases h with rfl | rfl | rfl | rfl | rfl <;> rfl

/-- After the sign there is no other sign. -/
theorem Spelling.ne_of_mem_head? (h : c ∈ w.unsignedText.head?) : c ≠ '+' ∧ c ≠ '-' := by
  have hdigits := w.isDigit_whole
  rw [unsignedText] at h
  cases hwhole : w.whole with
  | nil =>
    rw [hwhole] at h
    rcases of_mem_head?_rest h with rfl | rfl | rfl <;> exact ⟨by decide, by decide⟩
  | cons d ds =>
    rw [hwhole] at h hdigits
    obtain rfl : d = c := Option.some.inj h
    exact Sign.ne_of_isDigit (hdigits d List.mem_cons_self)

/-- A spelling is read as its values. -/
theorem Numeral.read?_text (w : Spelling) : read? w.text = some w.numeral := by
  have htrim : trimAscii w.text = w.sign.text ++ w.unsignedText := by
    rw [Text.trimAscii_eq_stripped, Spelling.text,
      Text.stripped_append w.isBlank_before w.isBlank_after]
    exact Text.stripped_of_not_mem fun c hc => Text.not_isAsciiBlank (w.not_isBlank hc)
  have hsign : Number.splitSign (w.sign.text ++ w.unsignedText) =
      (w.sign.isNegative, w.unsignedText) := w.sign.splitSign_text fun c => w.ne_of_mem_head?
  simp only [read?, htrim, hsign, readUnsigned?_text]

/-- Only spellings are read. -/
theorem Numeral.exists_spelling (h : read? s = some n) : ∃ w : Spelling, w.text = s := by
  obtain ⟨before, after, hs, hbefore, hafter⟩ := Text.exists_stripped Text.isAsciiBlank s
  obtain ⟨sign, hsign, -⟩ := Sign.exists_splitSign (trimAscii s)
  obtain ⟨body, hbody⟩ : ∃ body, (Number.splitSign (trimAscii s)).2 = body := ⟨_, rfl⟩
  obtain ⟨whole, hwhole⟩ : ∃ whole, body.takeWhile Char.isDigit = whole := ⟨_, rfl⟩
  obtain ⟨fraction, hfraction, hvalues, hdigits⟩ := exists_fraction (body.dropWhile Char.isDigit)
  simp only [read?, readUnsigned?, hbody, digits_eq, hwhole] at h
  split at h
  · cases h
  · next hne =>
    obtain ⟨e, he, -⟩ := Option.map_eq_some_iff.1 h
    obtain ⟨power, hpower⟩ := exists_power he
    have hplaces : whole ≠ [] ∨ fraction.getD [] ≠ [] := by
      rw [← not_and_or]
      rintro ⟨rfl, hnone⟩
      refine hne ?_
      rw [hvalues]
      cases fraction with
      | none => rfl
      | some ds =>
        obtain rfl : ds = [] := hnone
        rfl
    refine ⟨⟨before, sign, whole, fraction, power, after, hbefore, ?_, hdigits, hplaces, hafter⟩, ?_⟩
    · rw [← hwhole]
      exact List.all_eq_true.1 List.all_takeWhile
    · rw [hpower] at hfraction
      rw [hbody, ← List.takeWhile_append_dropWhile (p := Char.isDigit) (l := body), hwhole,
        hfraction] at hsign
      rw [Text.trimAscii_eq_stripped] at hsign
      exact (hs.trans (by rw [hsign]; rfl)).symm

/-- **The texts that are read** are those of spellings, and they are read as what is spelled. -/
theorem Numeral.read?_eq_some_iff :
    read? s = some n ↔ ∃ w : Spelling, w.text = s ∧ w.numeral = n := by
  constructor
  · intro h
    obtain ⟨w, rfl⟩ := exists_spelling h
    rw [read?_text] at h
    exact ⟨w, rfl, Option.some.inj h⟩
  · rintro ⟨w, rfl, rfl⟩
    exact read?_text w

/-! ## The number that is written -/

/-- Digits make a number below the power of ten of their count. -/
theorem Numeral.ofDigitChars_lt (h : ∀ c ∈ ds, c.isDigit = true) :
    Nat.ofDigitChars 10 ds 0 < 10 ^ ds.length := by
  induction ds with
  | nil => decide
  | cons c ds ih =>
    have hc : 48 ≤ c.toNat ∧ c.toNat ≤ 57 := Char.isDigit_iff_toNat.1 (h c (by simp))
    have hlt := ih fun d hd => h d (by simp [hd])
    rw [Nat.ofDigitChars_cons, Nat.ofDigitChars_eq_ofDigitChars_zero, List.length_cons, pow_succ]
    have hle : 10 ^ ds.length * (10 * 0 + (c.toNat - '0'.toNat)) ≤ 10 ^ ds.length * 9 :=
      Nat.mul_le_mul_left _ (by show 0 + (c.toNat - 48) ≤ 9; omega)
    omega

namespace Spelling

/-- The decimal with the digits of a spelling. -/
def decimal (w : Spelling) : Decimal :=
  .finite w.sign.isNegative w.numeral.coefficient w.numeral.scale

/-- The coefficient is the number that all digits write, the point left out. -/
theorem coefficient_numeral (w : Spelling) :
    w.numeral.coefficient = Nat.ofDigitChars 10 (w.whole ++ w.places) 0 := by
  rw [Numeral.coefficient, ← Numeral.ofDigits_values]
  exact congrArg Number.ofDigits List.map_append.symm

/-- Each place after the point takes one off the exponent. -/
theorem scale_numeral (w : Spelling) :
    w.numeral.scale = w.exponent - (w.places.length : Int) := by
  show w.exponent - ((Numeral.values w.places).length : Int) = _
  rw [Numeral.values, List.length_map]

/-- The decimal of a spelling denotes the number that is written. -/
theorem val?_decimal (w : Spelling) : w.decimal.val? = some w.val := by
  have hten : (10 : ℚ) ≠ 0 := by norm_num
  have hpow : (10 : ℚ) ^ w.places.length ≠ 0 := pow_ne_zero _ hten
  rw [decimal, Decimal.val?, Option.some.injEq, coefficient_numeral, scale_numeral,
    Nat.ofDigitChars_append, Nat.ofDigitChars_eq_ofDigitChars_zero, val, zpow_sub₀ hten, zpow_natCast]
  push_cast
  field_simp

/-- The powers of ten of a spelling are moderate: the one that is written, that of the first digit
before the point and that of the last digit after it. -/
structure InBounds (w : Spelling) : Prop where
  exponent : w.exponent.natAbs < 10 ^ 17
  whole : w.whole.length ≤ 10 ^ 17
  places : w.places.length ≤ 10 ^ 17

/-- The digits of a spelling are at least as many as those of its coefficient. -/
theorem digitCount_le (w : Spelling) :
    Number.digitCount w.numeral.coefficient ≤ w.whole.length + w.places.length := by
  have hpos : 0 < w.whole.length + w.places.length := by
    rcases w.digits_ne_nil with h | h
    · exact Nat.add_pos_left (List.length_pos_of_ne_nil h) _
    · exact Nat.add_pos_right _ (List.length_pos_of_ne_nil h)
  have hlt : w.numeral.coefficient < 10 ^ (w.whole.length + w.places.length) := by
    rw [coefficient_numeral, ← List.length_append]
    refine Numeral.ofDigitChars_lt fun c hc => ?_
    rcases List.mem_append.1 hc with h | h
    · exact w.isDigit_whole c h
    · exact w.isDigit_fraction c h
  exact (Nat.length_toDigits_le_iff (by decide) hpos).2 hlt

/-- Moderate powers of ten are in the range of decimals. -/
theorem InBounds.inRange (h : w.InBounds) :
    Decimal.inRange w.numeral.coefficient w.numeral.scale = true := by
  obtain ⟨hexponent, hwhole, hplaces⟩ := h
  have hcount := w.digitCount_le
  have hscale := w.scale_numeral
  rw [Decimal.inRange, Bool.and_eq_true, Bool.or_eq_true, decide_eq_true_eq, decide_eq_true_eq,
    decide_eq_true_eq, Decimal.leadingExponent, Decimal.maxExponent, Decimal.minScale]
  omega

/-- A text has room for the digits that are spelled in it. -/
theorem length_le_length_text (w : Spelling) :
    w.whole.length + w.places.length ≤ w.text.length := by
  have hpoint : w.places.length ≤ (pointText w.fraction).length := by
    rw [places]
    cases w.fraction with
    | none => exact Nat.le_refl _
    | some ds => exact Nat.le_succ _
  simp only [text, unsignedText, List.length_append]
  omega

end Spelling

/-- The text of a spelling in bounds denotes the number that is written. -/
theorem Value.toDecimal?_of_inBounds {s : String} (hs : w.text = s.toList) (h : w.InBounds) :
    (text s).toDecimal? = some w.decimal := by
  rw [toDecimal?, ← hs, Numeral.read?_text, Option.bind_some, Decimal.ofNumeral?, if_pos h.inRange]
  rfl

/-- A text that spells no number is none. -/
theorem Value.toDecimal?_eq_none {s : String} (h : ∀ w : Spelling, w.text ≠ s.toList) :
    (text s).toDecimal? = none := by
  cases hread : Numeral.read? s.toList with
  | none => rw [toDecimal?, hread, Option.bind_none]
  | some n =>
    obtain ⟨w, hw⟩ := Numeral.exists_spelling hread
    exact absurd hw (h w)

/-- **The number of a numeric text** is the one that its spelling writes; a text that no spelling has
is no number. -/
theorem Value.toDecimal?_spelled (s : String) :
    ((∀ w : Spelling, w.text ≠ s.toList) → (text s).toDecimal? = none) ∧
      ∀ w : Spelling, w.text = s.toList → s.length < 10 ^ 17 → w.exponent.natAbs < 10 ^ 17 →
        ∃ d, (text s).toDecimal? = some d ∧ d.val? = some w.val := by
  refine ⟨toDecimal?_eq_none, ?_⟩
  intro w hs hlength hexponent
  have hle := w.length_le_length_text
  rw [hs, String.length_toList] at hle
  exact ⟨w.decimal, toDecimal?_of_inBounds hs ⟨hexponent, by omega, by omega⟩, w.val?_decimal⟩

/-- White space around the number, no digit before the point and a capital letter for the power; and a
text in which white space stands between the digits. -/
theorem Value.toDecimal?_spelled_padded :
    let w : Spelling :=
      { before := ['\t'], sign := .minus, whole := [], fraction := some ['5', '0'],
        power := some ⟨'E', .plus, ['2'], .inr rfl, by simp, by simp⟩, after := [' ', '\n'],
        isBlank_before := List.forall_mem_singleton.2 rfl, isDigit_whole := by simp,
        isDigit_fraction := by simp, digits_ne_nil := .inr (by simp),
        isBlank_after := by simp [Text.isAsciiBlank] }
    w.text = "\t-.50E+2 \n".toList ∧ "\t-.50E+2 \n".length < 10 ^ 17 ∧ w.exponent.natAbs < 10 ^ 17 ∧
      (∃ d, (text "\t-.50E+2 \n").toDecimal? = some d ∧ d.val? = some (-50)) ∧
      (∀ v : Spelling, v.text ≠ "1 2".toList) ∧ (text "1 2").toDecimal? = none := by
  intro w
  have hw : w.text = "\t-.50E+2 \n".toList := by decide
  have hlength : "\t-.50E+2 \n".length < 10 ^ 17 := by decide
  have hexponent : w.exponent.natAbs < 10 ^ 17 := by decide
  have hval : w.val = -50 := by
    rw [Spelling.val, show w.exponent = 2 by decide,
      show Nat.ofDigitChars 10 w.whole 0 = 0 by decide,
      show Nat.ofDigitChars 10 w.places 0 = 50 by decide, show w.places.length = 2 by decide,
      show w.sign.isNegative = true by decide]
    norm_num
  have hnone : ∀ v : Spelling, v.text ≠ "1 2".toList := by
    intro v hv
    have hread : Numeral.read? "1 2".toList = some v.numeral := hv ▸ Numeral.read?_text v
    have hunread : Numeral.read? "1 2".toList = none := by decide
    rw [hunread] at hread
    cases hread
  obtain ⟨d, hd, hdenotes⟩ := (toDecimal?_spelled _).2 w hw hlength hexponent
  exact ⟨hw, hlength, hexponent, ⟨d, hd, by rw [hdenotes, hval]⟩, hnone, (toDecimal?_spelled _).1 hnone⟩

end

end RecordRules
