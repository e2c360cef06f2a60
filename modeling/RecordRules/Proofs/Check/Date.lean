import RecordRules.Proofs.Calendar.Format
import RecordRules.Proofs.Check.Passing

/-!
# Dates without a format

Without a format a text passes the rule on dates if it is a date, or a date and a time of day, written with
all its digits, from the year 1000 on (`Check.date_exact`). In both formats whatever reading is lenient about
is lost when the text is written again; but so are the zeros in front of a year, and hence no year before 1000
passes, written with four digits or not (`Check.date_early`).
-/

namespace RecordRules

/-- A text is a date, or the date and a time of day with a space between, all digits written. -/
def Date.IsGivenBy (d : Date) (s : List Char) : Prop :=
  d.IsWritten s ∨ ∃ (t : TimeOfDay) (date clock : List Char),
    t.IsOnClock ∧ d.IsWritten date ∧ t.IsWritten clock ∧ s = date ++ ' ' :: clock

/-- Such a text begins with the year. -/
theorem Date.IsGivenBy.isPadded_year {d : Date} {s : List Char} (h : d.IsGivenBy s) :
    Number.IsPadded 4 d.year (s.take 4) := by
  have hwritten {date : List Char} (hdate : d.IsWritten date) (rest : List Char) :
      Number.IsPadded 4 d.year ((date ++ rest).take 4) := by
    obtain ⟨year, month, day, hyear, -, -, rfl⟩ := hdate
    rwa [List.append_assoc, List.take_left' hyear.length]
  rcases h with hdate | ⟨t, date, clock, -, hdate, -, rfl⟩
  · have hyear := hwritten hdate []
    rwa [List.append_nil] at hyear
  · exact hwritten hdate _

namespace Check

variable {s : List Char} {formats : List String}

/-- Formats that all make patterns are tried one after the other. -/
theorem isDateInAny_eq_true_iff (h : formats.any Builtin.isBrokenFormat = false) :
    isDateInAny s formats = .ok true ↔ ∃ format ∈ formats, isDateIn format s = .ok true := by
  induction formats with
  | nil => simp [isDateInAny]
  | cons format formats ih =>
    obtain ⟨hformat, hformats⟩ := Bool.or_eq_false_iff.1 h
    rw [isDateInAny]
    cases hdate : isDateIn format s with
    | error cause =>
      have hraises : Raises (isDateIn format s) := ⟨cause, hdate⟩
      rw [Builtin.raises_isDateIn, hformat] at hraises
      cases hraises
    | ok found => cases found <;> simp [bind, Except.bind, pure, Except.pure, ih hformats, hdate]

/-- A text is a date in a format when it makes the round trip. -/
theorem isDateIn_eq_true_iff {format : String} {f : Calendar.Format}
    (hformat : Calendar.Format.ofText? format.toList = some f) :
    isDateIn format s = .ok true ↔ f.roundTrips s = .ok true := by
  simp only [isDateIn, hformat]
  cases f.roundTrips s <;> simp [Except.mapError]

/-- The default formats keep the dates from the year 1000 on. -/
theorem isDateInAny_defaultFormats_iff :
    isDateInAny s defaultFormats = .ok true ↔ ∃ d : Date, 1000 ≤ d.year ∧ d.IsGivenBy s := by
  rw [isDateInAny_eq_true_iff Builtin.isBrokenFormat_defaultFormats, defaultFormats]
  simp only [List.mem_cons, List.not_mem_nil, or_false, exists_eq_or_imp, exists_eq_left,
    isDateIn_eq_true_iff Calendar.ofText?_dateFormat, isDateIn_eq_true_iff Calendar.ofText?_momentFormat,
    Calendar.roundTrips_dateFormat_iff, Calendar.roundTrips_momentFormat_iff, Date.IsGivenBy]
  rw [← exists_or]
  exact exists_congr fun d => and_or_left.symm

section
variable {record : Record} {field text : String}

/-- Without a parameter, the rule tries its own formats on the text. -/
theorem date_eq (hvalue : record.value field = .text text) (hne : text ≠ "") :
    date field record none = (isDateInAny text.toList defaultFormats).map fun ok =>
      if ok then none else some ⟨field, .text text, "date", .null⟩ := by
  have hblank : (record.value field).isBlank = false := by
    rw [hvalue]
    exact Value.isBlank_text (by simpa using hne)
  rw [date, ofTest_eq_asking, asking_eq_map hblank, hvalue]
  rfl

/-- A date of a year before 1000 is refused, however it is written. -/
theorem date_eq_of_year_lt {d : Date} (hvalue : record.value field = .text text)
    (hdate : d.IsGivenBy text.toList) (hyear : d.year < 1000) :
    date field record none = .ok (some ⟨field, .text text, "date", .null⟩) := by
  have hne : text ≠ "" := by
    rintro rfl
    have hlength := hdate.isPadded_year.length
    cases hlength
  rw [date_eq hvalue hne]
  cases hfound : isDateInAny text.toList defaultFormats with
  | error cause =>
    exact absurd ⟨cause, hfound⟩ (Builtin.not_raises_isDateInAny Builtin.isBrokenFormat_defaultFormats)
  | ok found =>
    cases found with
    | false => rfl
    | true =>
      obtain ⟨d', hyear', hdate'⟩ := isDateInAny_defaultFormats_iff.1 hfound
      have hsame : d.year = d'.year := by rw [← hdate.isPadded_year.val, hdate'.isPadded_year.val]
      omega

/-- **The rule on dates** without a format has an answer for every text that is not empty, and is passed by
those that are a date, or a date and a time of day, of the year 1000 or later: the year in four digits, every
other part in two, and hyphens, a space and colons as they are expected. -/
theorem date_exact (hvalue : record.value field = .text text) (hne : text ≠ "") :
    ¬Raises (date field record none) ∧
      (date field record none = .ok none ↔ ∃ d : Date, 1000 ≤ d.year ∧ d.IsGivenBy text.toList) := by
  rw [date_eq hvalue hne, raises_map, ← isDateInAny_defaultFormats_iff]
  refine ⟨Builtin.not_raises_isDateInAny Builtin.isBrokenFormat_defaultFormats, ?_⟩
  cases isDateInAny text.toList defaultFormats with
  | error cause => simp [Except.map]
  | ok found => cases found <;> simp [Except.map]

/-- The last second of a leap day. -/
theorem date_exact_leapDay :
    let record : Record := [("at", .text "2024-02-29 23:59:59")]
    ¬Raises (date "at" record none) ∧ date "at" record none = .ok none := by
  intro record
  have hdate : (⟨2024, 2, 29, by decide⟩ : Date).IsWritten "2024-02-29".toList :=
    ⟨['2', '0', '2', '4'], ['0', '2'], ['2', '9'], by decide, by decide, by decide, by decide⟩
  have htime : (⟨23, 59, 59, 0⟩ : TimeOfDay).IsOnClock := ⟨by decide, by decide, by decide⟩
  have hclock : (⟨23, 59, 59, 0⟩ : TimeOfDay).IsWritten "23:59:59".toList :=
    ⟨['2', '3'], ['5', '9'], ['5', '9'], by decide, by decide, by decide, by decide⟩
  have hvalue : record.value "at" = .text "2024-02-29 23:59:59" := rfl
  obtain ⟨hanswer, hpasses⟩ := date_exact hvalue (by decide)
  exact ⟨hanswer, hpasses.2 ⟨_, by decide, .inr ⟨_, _, _, htime, hdate, hclock, by decide⟩⟩⟩

/-- The last day before the year 1000, with all its digits. -/
theorem date_early :
    let record : Record := [("on", .text "0999-12-31")]
    let d : Date := ⟨999, 12, 31, by decide⟩
    d.IsGivenBy "0999-12-31".toList ∧
      date "on" record none = .ok (some ⟨"on", .text "0999-12-31", "date", .null⟩) := by
  intro record d
  have hdate : d.IsGivenBy "0999-12-31".toList :=
    .inl ⟨['0', '9', '9', '9'], ['1', '2'], ['3', '1'], by decide, by decide, by decide, by decide⟩
  exact ⟨hdate, date_eq_of_year_lt rfl hdate (by decide)⟩

end

end Check

end RecordRules
