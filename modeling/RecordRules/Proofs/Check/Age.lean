import Mathlib.Data.Prod.Lex
import RecordRules.Proofs.Calendar.Written
import RecordRules.Proofs.Check.Passing
import RecordRules.Proofs.Number.Literal

/-!
# Ages in whole years

A person is at least so many years old from the anniversary of the birth on: years, months and days are
compared in this order (`Check.le_ageOn_iff`), so an anniversary that a year does not have is the first day
after it. Hence the rule on the age turns over there, keeps what it lets pass when days go by, for those who
were born before and for fewer years, and tells the age (`Check.minAge_exact`). The years are those that the
parameter spells; a longer numeral is no parameter, whatever it says (`Check.minAge_beyond`).
-/

namespace RecordRules

/-- A parameter spells an integer, in white space or not, in no more digits than are read. -/
def Parameter.Spells (p : String) (n : Int) : Prop :=
  ∃ w : Number.Literal, w.text = Text.trim p.toList ∧ w.digits.length ≤ Number.digitLimit ∧ w.val = n

/-- A value gives a date of birth: it is the date, a moment of that day, or the text of the date. -/
inductive Value.IsBirth (birth : Date) : Value → Prop
  | date : IsBirth birth (.date birth)
  | datetime {t : DateTime} (h : t.date = birth) : IsBirth birth (.datetime t)
  | text {s : String} (h : birth.IsWritten s.toList) : IsBirth birth (.text s)

/-- The year, the month and the day of a date, to be compared in this order. -/
def Date.place (d : Date) : ℤ ×ₗ ℕ ×ₗ ℕ := toLex (d.year, toLex (d.month, d.day))

/-- The place of a date so many years later, where there may be no date. -/
def Date.anniversary (d : Date) (years : Int) : ℤ ×ₗ ℕ ×ₗ ℕ :=
  toLex (d.year + years, toLex (d.month, d.day))

/-! ## Integer parameters -/

/-- A power of ten has one digit more than its exponent says. -/
theorem Number.lt_digitCount_pow {k : Nat} (hk : 0 < k) : k < digitCount (10 ^ k) := by
  refine Nat.lt_of_not_le fun hle => ?_
  exact Nat.lt_irrefl _ ((Nat.length_toDigits_le_iff (by decide) hk).1 hle)

namespace Parameter

variable {p rule : String} {n : Int}

/-- A parameter is read as an integer when it spells that integer. -/
theorem integer_eq_ok_iff : integer rule (some p) = .ok n ↔ Spells p n := by
  rw [Spells, ← Number.readInteger?_eq_some_iff]
  cases h : Number.readInteger? p.toList <;>
    simp [integer, required, bind, Except.bind, pure, Except.pure, throw, throwThe, MonadExceptOf.throw, h]

/-- An integer is spelled by its own text if this is not too long. -/
theorem spells_integerText_iff :
    Spells (Number.integerText n) n ↔ Number.digitCount n.natAbs ≤ Number.digitLimit := by
  rw [Spells, ← Number.readInteger?_eq_some_iff, Number.readInteger?_integerText]
  simp

end Parameter

/-! ## Dates of birth -/

namespace Value.IsBirth

variable {birth : Date} {v : Value}

/-- A value that gives a date of birth is not blank. -/
theorem isBlank (h : v.IsBirth birth) : v.isBlank = false := by
  cases h with
  | date | datetime _ => rfl
  | text h =>
    obtain ⟨year, month, day, hyear, -, -, htext⟩ := h
    refine isBlank_text ?_
    rw [htext]
    simp

/-- It is read as that date. -/
theorem birthDate? (h : v.IsBirth birth) : Check.birthDate? v = some birth := by
  cases h with
  | date => rfl
  | datetime h => exact congrArg some h
  | text h =>
    have hread := DateTime.ofIso?_of_isWritten h
    rw [Check.birthDate?, Text.trim_of_not_isBlank fun c => h.not_isBlank, hread]
    rfl

end Value.IsBirth

/-! ## The anniversary -/

namespace Date

variable {d d' : Date} {n n' : Int}

/-- An anniversary has come when the years are over, or in the last year the month and day. -/
theorem anniversary_le_iff : d.anniversary n ≤ d'.place ↔ d.year + n < d'.year ∨
    d.year + n = d'.year ∧ (d.month < d'.month ∨ d.month = d'.month ∧ d.day ≤ d'.day) := by
  rw [anniversary, place, Prod.Lex.toLex_le_toLex, Prod.Lex.toLex_le_toLex]

/-- An earlier birth and fewer years make an earlier anniversary. -/
theorem anniversary_le_anniversary (hd : d.place ≤ d'.place) (hn : n ≤ n') :
    d.anniversary n ≤ d'.anniversary n' := by
  rw [place, place, Prod.Lex.toLex_le_toLex, Prod.Lex.toLex_le_toLex] at hd
  rw [anniversary, anniversary, Prod.Lex.toLex_le_toLex, Prod.Lex.toLex_le_toLex]
  simp only at hd ⊢
  omega

/-- The twenty-ninth of February is over on the first of March in a year that does not have it. -/
theorem anniversary_leapDay_le_iff (hmonth : d.month = 2) (hday : d.day = 29) (hyear : d.year + n = d'.year)
    (hleap : isLeap d'.year = false) : d.anniversary n ≤ d'.place ↔ 3 ≤ d'.month := by
  have hend : d'.month = 2 → d'.day ≤ 28 := by
    intro h
    have hle := d'.bounds.2.2.2
    rwa [h, monthLength, if_pos rfl, hleap] at hle
  rw [anniversary_le_iff, hmonth, hday]
  omega

end Date

namespace Check

variable {birth today : Date} {n : Int}

/-- **Someone is so old** from the anniversary on. -/
theorem le_ageOn_iff : n ≤ ageOn birth today ↔ birth.anniversary n ≤ today.place := by
  rw [Date.anniversary_le_iff, ageOn]
  split <;> omega

section
variable {record : Record} {field p : String}

/-- What the rule answers for a date of birth and an age. -/
theorem minAge_eq (hbirth : (record.value field).IsBirth birth) (hparam : Parameter.Spells p n) :
    minAge today field record (some p) = .ok (if birth.anniversary n ≤ today.place then none
      else some ⟨field, record.value field, "min_age", .text p⟩) := by
  rw [minAge, ofTest_eq_asking, asking_eq_map hbirth.isBlank, Parameter.integer_eq_ok_iff.2 hparam,
    hbirth.birthDate?]
  simp only [← le_ageOn_iff]
  by_cases h : n ≤ ageOn birth today <;>
    simp [bind, Except.bind, pure, Except.pure, Except.map, paramValue, h]

/-- **The rule on the age** is passed from the anniversary on. -/
theorem minAge_passes_iff (hbirth : (record.value field).IsBirth birth) (hparam : Parameter.Spells p n) :
    minAge today field record (some p) = .ok none ↔ birth.anniversary n ≤ today.place := by
  rw [minAge_eq hbirth hparam]
  split <;> simp [*]

/-- It fails before the anniversary. -/
theorem minAge_fails_iff (hbirth : (record.value field).IsBirth birth) (hparam : Parameter.Spells p n) :
    (∃ f, minAge today field record (some p) = .ok (some f)) ↔ today.place < birth.anniversary n := by
  rw [minAge_eq hbirth hparam, ← not_le]
  split <;> simp [*]

/-- A numeral that is too long is no parameter. -/
theorem minAge_of_digitLimit_lt (hbirth : (record.value field).IsBirth birth)
    (hlong : Number.digitLimit < Number.digitCount n.natAbs) :
    minAge today field record (some (Number.integerText n)) =
      .error (.notInteger "min_age" (Number.integerText n)) := by
  have hread := Number.readInteger?_integerText n
  rw [if_neg (Nat.not_le.2 hlong)] at hread
  rw [minAge, ofTest_eq_asking, asking_eq_error hbirth.isBlank]
  simp [Parameter.integer, Parameter.required, hread, bind, Except.bind, throw, throwThe,
    MonadExceptOf.throw]

/-- What the rule answers about an integer, it answers about one that is not too long. -/
theorem spells_of_minAge_eq_ok (hbirth : (record.value field).IsBirth birth) {answer : Option Failure}
    (h : minAge today field record (some (Number.integerText n)) = .ok answer) :
    Parameter.Spells (Number.integerText n) n := by
  rw [Parameter.spells_integerText_iff]
  by_contra hlong
  rw [minAge_of_digitLimit_lt hbirth (Nat.lt_of_not_le hlong)] at h
  cases h

/-- An age and the next one, as they are written, are read as they are. -/
theorem spells_ageOn (birth today : Date) :
    Parameter.Spells (Number.integerText (ageOn birth today)) (ageOn birth today) ∧
      Parameter.Spells (Number.integerText (ageOn birth today + 1)) (ageOn birth today + 1) := by
  have hbirth := birth.bounds
  have htoday := today.bounds
  have hage : -10000 ≤ ageOn birth today ∧ ageOn birth today ≤ 10000 := by
    rw [ageOn]
    split <;> omega
  have hcount {k : Nat} (hk : k < 10 ^ 5) : Number.digitCount k ≤ Number.digitLimit := by
    have hfive : Number.digitCount k ≤ 5 := (Nat.length_toDigits_le_iff (by decide) (by decide)).2 hk
    have hlimit : Number.digitLimit = 4300 := rfl
    omega
  exact ⟨Parameter.spells_integerText_iff.2 (hcount (by omega)),
    Parameter.spells_integerText_iff.2 (hcount (by omega))⟩

/-- **The age** is the one number of years that the rule finds reached while it misses the next. -/
theorem existsUnique_age (hbirth : (record.value field).IsBirth birth) (today : Date) :
    ∃! m : Int, minAge today field record (some (Number.integerText m)) = .ok none ∧
      ∃ f, minAge today field record (some (Number.integerText (m + 1))) = .ok (some f) := by
  obtain ⟨hspells, hnext⟩ := spells_ageOn birth today
  refine ⟨ageOn birth today, ⟨?_, ?_⟩, ?_⟩
  · rw [minAge_passes_iff hbirth hspells, ← le_ageOn_iff]
  · rw [minAge_fails_iff hbirth hnext, ← not_le, ← le_ageOn_iff]
    omega
  · rintro m ⟨hpasses, f, hfails⟩
    have hreached : m ≤ ageOn birth today :=
      le_ageOn_iff.2 ((minAge_passes_iff hbirth (spells_of_minAge_eq_ok hbirth hpasses)).1 hpasses)
    have hmissed : ¬m + 1 ≤ ageOn birth today := fun hle =>
      not_le.2 ((minAge_fails_iff hbirth (spells_of_minAge_eq_ok hbirth hfails)).1 ⟨f, hfails⟩)
        (le_ageOn_iff.1 hle)
    omega

/-- **The rule on the age turns over on the anniversary**, for every date of birth, every day and every
integer that the parameter spells: the rule is passed from the anniversary on, which is the first of March
if the year has no twenty-ninth of February; what it lets pass it lets pass on later days, for those born
before and for fewer years; and it is passed for one number of years and missed for the next. -/
theorem minAge_exact (hbirth : (record.value field).IsBirth birth) (hparam : Parameter.Spells p n)
    (today : Date) :
    ¬Raises (minAge today field record (some p)) ∧
      (minAge today field record (some p) = .ok none ↔ birth.anniversary n ≤ today.place) ∧
      (birth.month = 2 → birth.day = 29 → birth.year + n = today.year → Date.isLeap today.year = false →
        (minAge today field record (some p) = .ok none ↔ 3 ≤ today.month)) ∧
      (minAge today field record (some p) = .ok none →
        ∀ {record' : Record} {field' p' : String} {birth' today' : Date} {n' : Int},
          (record'.value field').IsBirth birth' → Parameter.Spells p' n' →
            today.place ≤ today'.place → birth'.place ≤ birth.place → n' ≤ n →
              minAge today' field' record' (some p') = .ok none) ∧
      ∃! m : Int, minAge today field record (some (Number.integerText m)) = .ok none ∧
        ∃ f, minAge today field record (some (Number.integerText (m + 1))) = .ok (some f) := by
  have hpasses : minAge today field record (some p) = .ok none ↔ birth.anniversary n ≤ today.place :=
    minAge_passes_iff hbirth hparam
  refine ⟨?_, hpasses, ?_, ?_, existsUnique_age hbirth today⟩
  · rw [minAge_eq hbirth hparam]
    exact raises_ok _
  · intro hmonth hday hyear hleap
    rw [hpasses, Date.anniversary_leapDay_le_iff hmonth hday hyear hleap]
  · intro hpassed record' field' p' birth' today' n' hbirth' hparam' htoday hborn hyears
    rw [minAge_passes_iff hbirth' hparam']
    exact (Date.anniversary_le_anniversary hborn hyears).trans ((hpasses.1 hpassed).trans htoday)

end

/-- Eighteen years after the twenty-ninth of February 2000, in a year without that day. -/
theorem minAge_exact_leapDay :
    let birth : Date := ⟨2000, 2, 29, by decide⟩
    let record : Record := [("born", .text "2000-02-29")]
    (record.value "born").IsBirth birth ∧ Parameter.Spells " +1_8 " 18 ∧
      (∃ f, minAge ⟨2018, 2, 28, by decide⟩ "born" record (some " +1_8 ") = .ok (some f)) ∧
      minAge ⟨2018, 3, 1, by decide⟩ "born" record (some " +1_8 ") = .ok none := by
  intro birth record
  let eighteen : Number.Literal :=
    { sign := .plus, groups := [['1'], ['8']]
      groups_ne_nil := by decide
      group_ne_nil := by decide
      isDecimalDigit := by simpa using ⟨rfl, rfl⟩ }
  have htext : eighteen.text = Text.trim " +1_8 ".toList := by decide
  have hlength : eighteen.digits.length ≤ Number.digitLimit := by decide
  have hval : eighteen.val = 18 := rfl
  have hspells : Parameter.Spells " +1_8 " 18 := ⟨eighteen, htext, hlength, hval⟩
  have hwritten : birth.IsWritten "2000-02-29".toList :=
    ⟨['2', '0', '0', '0'], ['0', '2'], ['2', '9'], by decide, by decide, by decide, by decide⟩
  have hborn : (record.value "born").IsBirth birth := .text hwritten
  have hbefore : birth.anniversary 18 ≤ (⟨2018, 2, 28, by decide⟩ : Date).place ↔ 3 ≤ 2 :=
    Date.anniversary_leapDay_le_iff rfl rfl rfl rfl
  have hafter := (minAge_exact hborn hspells ⟨2018, 3, 1, by decide⟩).2.2.1 rfl rfl rfl rfl
  refine ⟨hborn, hspells, ?_, hafter.2 (by decide)⟩
  rw [minAge_fails_iff hborn hspells, ← not_le, hbefore]
  decide

/-- A numeral of too many digits is refused, though the day has come. -/
theorem minAge_beyond :
    let birth : Date := ⟨2000, 1, 1, by decide⟩
    let years : Int := -10 ^ Number.digitLimit
    birth.anniversary years ≤ birth.place ∧
      minAge birth "born" [("born", .date birth)] (some (Number.integerText years)) =
        .error (.notInteger "min_age" (Number.integerText years)) := by
  intro birth years
  have hneg : years < 0 := neg_lt_zero.2 (by positivity)
  have habs : years.natAbs = 10 ^ Number.digitLimit := by
    rw [Int.natAbs_neg, Int.natAbs_pow, show Int.natAbs 10 = 10 from rfl]
  have hlong : Number.digitLimit < Number.digitCount years.natAbs :=
    habs.symm ▸ Number.lt_digitCount_pow (by decide)
  exact ⟨Date.anniversary_le_iff.2 (.inl (add_lt_of_neg_right _ hneg)), minAge_of_digitLimit_lt .date hlong⟩

end Check

end RecordRules
