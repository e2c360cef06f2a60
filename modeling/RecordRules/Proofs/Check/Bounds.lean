import RecordRules.Check.Limits
import RecordRules.Proofs.Check.Passing
import RecordRules.Proofs.Number.Spelling

/-!
# Numeric bounds

An integer, a finite decimal and the text of a spelling denote rational numbers (`Value.Denotes`). The
rules on numeric bounds compare the number that a value denotes with the one that the parameter
denotes, without rounding and whatever the notations are (`Check.numericBounds_exact`). A value or a
parameter that denotes no number fails both rules and raises nothing.
-/

namespace RecordRules

variable {v : Value} {p q : ℚ} {d : Decimal}

/-! ## The numbers that values denote -/

/-- A value that is a rational number or writes one. -/
inductive Value.Denotes : Value → ℚ → Prop
  | int (n : Int) : Denotes (.int n) n
  | decimal {d : Decimal} {q : ℚ} : d.val? = some q → Denotes (.decimal d) q
  | text {s : String} {w : Spelling} : w.text = s.toList → Denotes (.text s) w.val

/-- The powers of ten in the texts that a value is spelled with are moderate. -/
def Value.InBounds (v : Value) : Prop :=
  ∀ (s : String) (w : Spelling), v = .text s → w.text = s.toList → w.InBounds

/-- A finite number has a value. -/
theorem Decimal.exists_val? (h : d.isFinite = true) : ∃ q, d.val? = some q := by
  cases d with
  | finite s c e => exact ⟨_, rfl⟩
  | infinite _ | nan => cases h

/-- The decimal that stands for a value denotes the number that the value denotes. -/
theorem Value.Denotes.exists_toDecimal? (h : v.Denotes q) (hbounds : v.InBounds) :
    ∃ d, v.toDecimal? = some d ∧ d.val? = some q := by
  cases h with
  | int n => exact ⟨_, rfl, Decimal.val?_ofInt n⟩
  | @decimal d q hd =>
    have hfinite : d.isFinite = true := by
      cases d with
      | finite s c e => rfl
      | infinite _ | nan => cases hd
    exact ⟨d, if_pos hfinite, hd⟩
  | @text s w hs => exact ⟨_, toDecimal?_of_inBounds hs (hbounds s w rfl hs), w.val?_decimal⟩

/-- A value for which a decimal stands denotes a number, unless it is a double precision number. -/
theorem Value.exists_denotes (hfloat : ∀ x, v ≠ .float x) (hbounds : v.InBounds)
    (h : v.toDecimal? = some d) : ∃ q, d.val? = some q ∧ v.Denotes q := by
  cases v with
  | int n =>
    obtain rfl : Decimal.ofInt n = d := Option.some.inj h
    exact ⟨n, Decimal.val?_ofInt n, .int n⟩
  | float x => exact absurd rfl (hfloat x)
  | decimal d' =>
    rw [toDecimal?] at h
    split at h
    · next hfinite =>
      obtain rfl : d' = d := Option.some.inj h
      obtain ⟨q, hq⟩ := Decimal.exists_val? hfinite
      exact ⟨q, hq, .decimal hq⟩
    · cases h
  | text s =>
    obtain ⟨n, hread, -⟩ := Option.bind_eq_some_iff.1 h
    obtain ⟨w, hw⟩ := Numeral.exists_spelling hread
    rw [toDecimal?_of_inBounds hw (hbounds s w rfl hw)] at h
    obtain rfl : w.decimal = d := Option.some.inj h
    exact ⟨w.val, w.val?_decimal, .text hw⟩
  | _ => cases h

/-- The number that is read from a value within bounds is the one that it denotes. -/
theorem Value.denotes_of_toDecimal? (hfloat : ∀ x, v ≠ .float x) (hbounds : v.InBounds)
    (h : v.toDecimal? = some d) (hq : d.val? = some q) : v.Denotes q := by
  obtain ⟨p, hp, hdenotes⟩ := exists_denotes hfloat hbounds h
  obtain rfl : p = q := Option.some.inj (hp.symm.trans hq)
  exact hdenotes

/-- A value denotes one number. -/
theorem Value.Denotes.unique (hp : v.Denotes p) (hq : v.Denotes q) (hbounds : v.InBounds) : p = q := by
  obtain ⟨d, hd, hdp⟩ := hp.exists_toDecimal? hbounds
  obtain ⟨d', hd', hdq⟩ := hq.exists_toDecimal? hbounds
  obtain rfl : d = d' := Option.some.inj (hd.symm.trans hd')
  exact Option.some.inj (hdp.symm.trans hdq)

/-- Of values that denote numbers, these are in a relation if the numbers are. -/
theorem Value.Denotes.exists_iff {w : Value} {rel : ℚ → ℚ → Prop} (hp : v.Denotes p) (hq : w.Denotes q)
    (hv : v.InBounds) (hw : w.InBounds) :
    (∃ p q, v.Denotes p ∧ w.Denotes q ∧ rel p q) ↔ rel p q := by
  constructor
  · rintro ⟨p', q', hp', hq', hrel⟩
    rw [hp.unique hp' hv, hq.unique hq' hw]
    exact hrel
  · intro hrel
    exact ⟨p, q, hp, hq, hrel⟩

/-- A numeric text whose power of ten is moderate and that is not beyond measure. -/
theorem Value.inBounds_of_read? {s : String} {n : Numeral} (hread : Numeral.read? s.toList = some n)
    (hexponent : n.exponent.natAbs < 10 ^ 17) (hlength : s.length ≤ 10 ^ 17) : (text s).InBounds := by
  rintro _ w ⟨rfl⟩ hw
  have hle := w.length_le_length_text
  rw [hw, String.length_toList] at hle
  rw [← hw, Numeral.read?_text] at hread
  obtain rfl : w.numeral = n := Option.some.inj hread
  exact ⟨hexponent, by omega, by omega⟩

/-! ## The rules -/

namespace Check

section
variable {rule field : String} {record : Record} {param : Option String}
  {compare : Decimal → Decimal → Bool}

/-- The rules about numbers never raise. -/
theorem not_raises_numericRule : ¬ Raises (numericRule rule compare field record param) := by
  cases hblank : (record.value field).isBlank with
  | true =>
    rw [numericRule, ofTest_of_isBlank hblank]
    exact raises_ok none
  | false =>
    rw [numericRule, raises_ofTest_iff hblank]
    cases (record.value field).toDecimal? <;> cases (paramValue param).toDecimal? <;> simp

/-- A parameter is a text, never a binary number. -/
theorem paramValue_ne_float (x : Binary64) : paramValue param ≠ .float x := by
  cases param <;> exact nofun

/-- A rule whose comparison of decimals is a relation of the numbers they denote is passed by the values
whose numbers are so related to the number of the parameter. -/
theorem numericRule_passes_iff (rel : ℚ → ℚ → Prop)
    (hcompare : ∀ {a b p q}, a.val? = some p → b.val? = some q → (compare a b = true ↔ rel p q))
    (hblank : (record.value field).isBlank = false) (hfloat : ∀ x, record.value field ≠ .float x)
    (hvalue : (record.value field).InBounds) (hparam : (paramValue param).InBounds) :
    numericRule rule compare field record param = .ok none ↔
      ∃ p q, (record.value field).Denotes p ∧ (paramValue param).Denotes q ∧ rel p q := by
  rw [numericRule, ofTest_passes_iff hblank]
  constructor
  · intro h
    split at h
    · next a b ha hb =>
      obtain ⟨p, hap, hp⟩ := Value.exists_denotes hfloat hvalue ha
      obtain ⟨q, hbq, hq⟩ := Value.exists_denotes paramValue_ne_float hparam hb
      exact ⟨p, q, hp, hq, (hcompare hap hbq).1 (Except.ok.inj h)⟩
    · cases h
  · rintro ⟨p, q, hp, hq, hrel⟩
    obtain ⟨a, ha, hap⟩ := hp.exists_toDecimal? hvalue
    obtain ⟨b, hb, hbq⟩ := hq.exists_toDecimal? hparam
    simp only [ha, hb]
    rw [(hcompare hap hbq).2 hrel]

/-- **Numeric bounds are exact**: a value passes a rule if it and the parameter denote numbers and these
are in order. Of a value and a parameter that denote numbers, one of the two rules is passed, and both
are if the numbers are equal. Neither rule raises. -/
theorem numericBounds_exact (hblank : (record.value field).isBlank = false)
    (hfloat : ∀ x, record.value field ≠ .float x) (hvalue : (record.value field).InBounds)
    (hparam : (paramValue param).InBounds) :
    (maxNumeric field record param = .ok none ↔
        ∃ p q, (record.value field).Denotes p ∧ (paramValue param).Denotes q ∧ p ≤ q) ∧
      (minNumeric field record param = .ok none ↔
        ∃ p q, (record.value field).Denotes p ∧ (paramValue param).Denotes q ∧ q ≤ p) ∧
      (∀ p q, (record.value field).Denotes p → (paramValue param).Denotes q →
        (maxNumeric field record param = .ok none ∨ minNumeric field record param = .ok none) ∧
          (maxNumeric field record param = .ok none ∧ minNumeric field record param = .ok none ↔
            p = q)) ∧
      ¬ Raises (maxNumeric field record param) ∧ ¬ Raises (minNumeric field record param) := by
  have hmax : maxNumeric field record param = .ok none ↔
      ∃ p q, (record.value field).Denotes p ∧ (paramValue param).Denotes q ∧ p ≤ q :=
    numericRule_passes_iff (· ≤ ·) Decimal.le_iff hblank hfloat hvalue hparam
  have hmin : minNumeric field record param = .ok none ↔
      ∃ p q, (record.value field).Denotes p ∧ (paramValue param).Denotes q ∧ q ≤ p :=
    numericRule_passes_iff (fun p q => q ≤ p) (fun ha hb => Decimal.le_iff hb ha) hblank hfloat hvalue
      hparam
  refine ⟨hmax, hmin, ?_, not_raises_numericRule, not_raises_numericRule⟩
  intro p q hp hq
  rw [hmax, hmin, hp.exists_iff hq hvalue hparam, hp.exists_iff hq hvalue hparam]
  exact ⟨le_total p q, le_antisymm_iff.symm⟩

/-- One thousand in two notations is its own upper and lower bound. -/
theorem numericBounds_exact_notations :
    let record : Record := [("n", .text "1e3")]
    (record.value "n").isBlank = false ∧ (∀ x, record.value "n" ≠ .float x) ∧
      (record.value "n").InBounds ∧ (paramValue (some "1000.00")).InBounds ∧
      (record.value "n").Denotes 1000 ∧ (paramValue (some "1000.00")).Denotes 1000 ∧
      maxNumeric "n" record (some "1000.00") = .ok none ∧
      minNumeric "n" record (some "1000.00") = .ok none := by
  intro record
  have hvalue : (record.value "n").InBounds :=
    Value.inBounds_of_read? (n := ⟨false, [1], [], 3⟩) (by decide) (by decide) (by decide)
  have hparam : (paramValue (some "1000.00")).InBounds :=
    Value.inBounds_of_read? (n := ⟨false, [1, 0, 0, 0], [0, 0], 0⟩) (by decide) (by decide) (by decide)
  have hfloat : ∀ x, record.value "n" ≠ .float x := nofun
  have hp : (record.value "n").Denotes 1000 :=
    Value.denotes_of_toDecimal? (d := .finite false 1 3) hfloat hvalue (by decide)
      (by norm_num [Decimal.val?])
  have hq : (paramValue (some "1000.00")).Denotes 1000 :=
    Value.denotes_of_toDecimal? (d := .finite false 100000 (-2)) paramValue_ne_float hparam (by decide)
      (by norm_num [Decimal.val?])
  obtain ⟨-, -, hboth, -, -⟩ := numericBounds_exact rfl hfloat hvalue hparam
  obtain ⟨hmax, hmin⟩ := (hboth 1000 1000 hp hq).2.2 rfl
  exact ⟨rfl, hfloat, hvalue, hparam, hp, hq, hmax, hmin⟩

end

end Check

end RecordRules
