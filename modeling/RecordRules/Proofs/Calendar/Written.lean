import RecordRules.Calendar.Iso
import RecordRules.Proofs.Number.Written

/-!
# Dates and times as they are written

The parts of a date and of a time of day are written in a fixed number of digits (`Number.IsPadded`), so a
part has one text (`Number.IsPadded.eq`), which padding makes (`Number.isPadded_padded`). A date is written
year, month and day, with hyphens between them (`Date.IsWritten`). So a date has one text
(`Date.isWritten_iff_eq`), and is read from it (`DateTime.ofIso?_of_isWritten`). A time of day is written in
the same way with colons (`TimeOfDay.IsWritten`).
-/

namespace RecordRules

/-! ## Numbers of a fixed width -/

/-- A text of so many digits that makes a number. -/
structure Number.IsPadded (width n : Nat) (s : List Char) : Prop where
  length : s.length = width
  isDigit : ∀ c ∈ s, c.isDigit = true
  val : Nat.ofDigitChars 10 s 0 = n

namespace Number

variable {width n : Nat} {s s' rest : List Char}

/-- A digit is less than ten. -/
theorem digit_lt {c : Char} (h : c.isDigit = true) : c.toNat - '0'.toNat < 10 := by
  have hrange : 48 ≤ c.toNat ∧ c.toNat ≤ 57 := Char.isDigit_iff_toNat.1 h
  show c.toNat - 48 < 10
  omega

/-- Texts of as many digits that make the same number, after the same or different numbers, are the same. -/
theorem eq_of_ofDigitChars {n n' : Nat} (hlength : s.length = s'.length) (h : ∀ c ∈ s, c.isDigit = true)
    (h' : ∀ c ∈ s', c.isDigit = true) (hval : Nat.ofDigitChars 10 s n = Nat.ofDigitChars 10 s' n') :
    s = s' ∧ n = n' := by
  induction s generalizing s' n n' with
  | nil =>
    obtain rfl := List.eq_nil_of_length_eq_zero hlength.symm
    exact ⟨rfl, by simpa using hval⟩
  | cons c s ih =>
    obtain ⟨c', s', rfl⟩ := List.exists_cons_of_length_eq_add_one hlength.symm
    have hc := h c (by simp)
    have hc' := h' c' (by simp)
    rw [Nat.ofDigitChars_cons, Nat.ofDigitChars_cons] at hval
    obtain ⟨rfl, hnext⟩ := ih (Nat.succ.inj hlength) (fun d hd => h d (by simp [hd]))
      (fun d hd => h' d (by simp [hd])) hval
    have hlt := digit_lt hc
    have hlt' := digit_lt hc'
    have hdigits : written (c.toNat - '0'.toNat) = written (c'.toNat - '0'.toNat) :=
      congrArg written (by omega)
    rw [written_digit hc, written_digit hc'] at hdigits
    obtain rfl : c = c' := List.singleton_inj.1 hdigits
    exact ⟨rfl, by omega⟩

namespace IsPadded

instance : Decidable (IsPadded width n s) :=
  -- The characters are decided along the list.
  have : Decidable (∀ c ∈ s, c.isDigit = true) := List.decidableBAll _ _
  decidable_of_iff (s.length = width ∧ (∀ c ∈ s, c.isDigit = true) ∧ Nat.ofDigitChars 10 s 0 = n)
    ⟨fun h => ⟨h.1, h.2.1, h.2.2⟩, fun h => ⟨h.length, h.isDigit, h.val⟩⟩

/-- A number has one text of a width. -/
theorem eq (h : IsPadded width n s) (h' : IsPadded width n s') : s = s' :=
  (eq_of_ofDigitChars (h.length.trans h'.length.symm) h.isDigit h'.isDigit (h.val.trans h'.val.symm)).1

/-- A number that is padded to some width has digits. -/
theorem ne_nil (h : IsPadded width n s) (hwidth : 0 < width) : s ≠ [] := by
  rw [← List.length_pos_iff, h.length]
  exact hwidth

end IsPadded

/-- Padding a number that has room in a width makes its text of that width. -/
theorem isPadded_padded (hwidth : 0 < width) (h : n < 10 ^ width) :
    IsPadded width n (padded width n).toList := by
  have hlength : (Nat.toDigits 10 n).length ≤ width := (Nat.length_toDigits_le_iff (by decide) hwidth).2 h
  have htext : (padded width n).toList =
      List.replicate (width - (Nat.toDigits 10 n).length) '0' ++ Nat.toDigits 10 n := by
    rw [padded, String.toList_append, String.toList_ofList, Nat.toList_repr, ← String.length_toList,
      Nat.toList_repr]
  rw [htext]
  refine ⟨?_, ?_, ?_⟩
  · rw [List.length_append, List.length_replicate]
    omega
  · intro c hc
    rcases List.mem_append.1 hc with hzero | hdigit
    · obtain rfl := List.eq_of_mem_replicate hzero
      rfl
    · exact isDigit_of_mem_written hdigit
  · rw [Nat.ofDigitChars_append, Nat.ofDigitChars_replicate_zero, Nat.mul_zero,
      Nat.ofDigitChars_toDigits (by decide) (by decide)]

end Number

/-! ## Dates -/

/-- A text gives a date as the year in four digits, the month and the day in two, with hyphens between. -/
def Date.IsWritten (d : Date) (s : List Char) : Prop :=
  ∃ year month day, Number.IsPadded 4 d.year year ∧ Number.IsPadded 2 d.month month ∧
    Number.IsPadded 2 d.day day ∧ s = year ++ '-' :: (month ++ '-' :: day)

namespace Date

variable {d : Date} {s : List Char}

/-- The parts of a date are in the ranges that its validity gives them. -/
theorem bounds (d : Date) : (1 ≤ d.year ∧ d.year ≤ 9999) ∧ (1 ≤ d.month ∧ d.month ≤ 12) ∧
    1 ≤ d.day ∧ d.day ≤ monthLength d.year d.month := by
  have hvalid := d.valid
  simp only [exists?, Bool.and_eq_true, decide_eq_true_eq] at hvalid
  omega

/-- No month has more than 31 days. -/
theorem day_le (d : Date) : d.day ≤ 31 := by
  refine Nat.le_trans d.bounds.2.2.2 ?_
  rw [monthLength]
  split
  · split <;> decide
  · split <;> decide

/-- The parts of a date make up that date. -/
theorem of?_date (d : Date) : of? d.year d.month d.day = some d := dif_pos d.valid

/-- A date is written as it is shown. -/
theorem isWritten_text (d : Date) : d.IsWritten d.text.toList := by
  have hbounds := d.bounds
  have hday := d.day_le
  refine ⟨_, _, _, Number.isPadded_padded (by decide) (by omega),
    Number.isPadded_padded (by decide) (by omega), Number.isPadded_padded (by decide) (by omega), ?_⟩
  have htext : d.text = padded 4 d.year ++ "-" ++ padded 2 d.month ++ "-" ++ padded 2 d.day := rfl
  simp [htext]

/-- A date has one text. -/
theorem isWritten_iff_eq : d.IsWritten s ↔ s = d.text.toList := by
  constructor
  · rintro ⟨year, month, day, hyear, hmonth, hday, rfl⟩
    obtain ⟨year', month', day', hyear', hmonth', hday', htext⟩ := d.isWritten_text
    rw [htext, hyear.eq hyear', hmonth.eq hmonth', hday.eq hday']
  · intro hs
    rw [hs]
    exact d.isWritten_text

/-- There is no white space in a written date. -/
theorem IsWritten.not_isBlank (h : d.IsWritten s) {c : Char} (hc : c ∈ s) : Text.isBlank c = false := by
  obtain ⟨year, month, day, hyear, hmonth, hday, rfl⟩ := h
  have hparts : c ∈ year ∨ c = '-' ∨ c ∈ month ∨ c ∈ day := by
    simp only [List.mem_append, List.mem_cons] at hc
    tauto
  rcases hparts with hmem | rfl | hmem | hmem
  · exact Text.not_isBlank_of_isDigit (hyear.isDigit c hmem)
  · decide
  · exact Text.not_isBlank_of_isDigit (hmonth.isDigit c hmem)
  · exact Text.not_isBlank_of_isDigit (hday.isDigit c hmem)

end Date

/-! ## Times of day -/

/-- A time of day has hours up to 23, and minutes and seconds up to 59. -/
def TimeOfDay.IsOnClock (t : TimeOfDay) : Prop := t.hour < 24 ∧ t.minute < 60 ∧ t.second < 60

/-- A text gives a time of day to the second as the hour, the minute and the second in two digits each, with
colons between. -/
def TimeOfDay.IsWritten (t : TimeOfDay) (s : List Char) : Prop :=
  ∃ hour minute second, Number.IsPadded 2 t.hour hour ∧ Number.IsPadded 2 t.minute minute ∧
    Number.IsPadded 2 t.second second ∧ s = hour ++ ':' :: (minute ++ ':' :: second)

/-- A time of day begins with a digit. -/
theorem TimeOfDay.IsWritten.isDigit_of_mem_head? {t : TimeOfDay} {s : List Char} (h : t.IsWritten s) {c : Char}
    (hc : c ∈ s.head?) : c.isDigit = true := by
  obtain ⟨hour, minute, second, hhour, -, -, rfl⟩ := h
  rw [List.head?_append_of_ne_nil _ (hhour.ne_nil (by decide))] at hc
  exact hhour.isDigit c (List.mem_of_mem_head? hc)

/-! ## Reading dates -/

namespace Iso

variable {width n : Nat} {s rest : List Char}

/-- Digits of the right number are read, whatever follows them. -/
theorem digits?_append (h : Number.IsPadded width n s) (rest : List Char) :
    digits? width (s ++ rest) = some (n, rest) := by
  have htake : (s ++ rest).take width = s := List.take_left' h.length
  have hdrop : (s ++ rest).drop width = rest := List.drop_left' h.length
  have hdigits : s.all Char.isDigit = true := List.all_eq_true.2 h.isDigit
  have hval : s.foldl (fun acc c => 10 * acc + (c.toNat - 0x30)) 0 = n := by
    rw [← h.val, Nat.ofDigitChars_eq_foldl]
    rfl
  simp only [digits?, htake, hdrop, h.length, hdigits, hval]
  simp

/-- A padded number is read to its end. -/
theorem digits?_eq (h : Number.IsPadded width n s) : digits? width s = some (n, []) := by
  have hread := digits?_append h []
  rwa [List.append_nil] at hread

/-- The front of a text is its first character. -/
theorem front_cons (c : Char) (rest : List Char) : front (c :: rest) = c := rfl

/-- What begins with a number does not begin with another character. -/
theorem front_append_ne (h : Number.IsPadded width n s) (hwidth : 0 < width) {c : Char}
    (hc : c.isDigit = false) : front (s ++ rest) ≠ c := by
  obtain ⟨first, others, rfl⟩ := List.exists_cons_of_ne_nil (h.ne_nil hwidth)
  rintro rfl
  rw [List.cons_append, front, h.isDigit first (by simp)] at hc
  cases hc

/-- A text of ASCII characters has one byte for each of them. -/
theorem byBytes_eq_self {s : List Char} (h : ∀ c ∈ s, c.toNat < 0x80) : byBytes s = s := by
  induction s with
  | nil => rfl
  | cons c s ih =>
    obtain ⟨hc, hs⟩ := List.forall_mem_cons.1 h
    have hsize : c.utf8Size = 1 := Char.utf8Size_eq_one_iff.2 (UInt32.le_iff_toNat_le.2 (by
      have hcode : c.val.toNat < 0x80 := hc
      simpa using Nat.le_of_lt_succ hcode))
    have hrest := ih hs
    rw [byBytes] at hrest ⊢
    rw [List.flatMap_cons, hsize, hrest]
    rfl

/-- A date that is written is read. -/
theorem date?_of_isWritten {d : Date} (h : d.IsWritten s) : date? s = some d := by
  obtain ⟨year, month, day, hyear, hmonth, hday, rfl⟩ := h
  have hmonthFront : front (month ++ '-' :: day) ≠ 'W' := front_append_ne hmonth (by decide) rfl
  simp only [date?, digits?_append hyear, front_cons, List.drop_one, List.tail_cons, if_true, hmonthFront,
    if_false, digits?_append hmonth, hyphen?, digits?_eq hday, decide_true, Option.bind_eq_bind,
    Option.bind_some, Bool.not_true, Bool.false_eq_true, List.isEmpty_nil, d.of?_date]

end Iso

/-- A date that is written is read as its start. -/
theorem DateTime.ofIso?_of_isWritten {d : Date} {s : List Char} (h : d.IsWritten s) :
    ofIso? s = some ⟨d, ⟨0, 0, 0, 0⟩, none⟩ := by
  have hread := Iso.date?_of_isWritten h
  obtain ⟨year, month, day, hyear, hmonth, hday, rfl⟩ := h
  have hlength : (year ++ '-' :: (month ++ '-' :: day)).length = 10 := by
    simp [hyear.length, hmonth.length, hday.length]
  have hfour : (year ++ '-' :: (month ++ '-' :: day)).drop 4 = '-' :: (month ++ '-' :: day) :=
    List.drop_left' hyear.length
  have hfive : (year ++ '-' :: (month ++ '-' :: day)).drop 5 = month ++ '-' :: day := by
    rw [show 5 = 4 + 1 from rfl, ← List.drop_drop, hfour]
    rfl
  have hmonthFront : Iso.front (month ++ '-' :: day) ≠ 'W' := Iso.front_append_ne hmonth (by decide) rfl
  have hdateLength : Iso.dateLength (year ++ '-' :: (month ++ '-' :: day)) = 10 := by
    rw [Iso.dateLength, hlength, if_neg (by decide), hfour, Iso.front_cons, if_pos rfl, hfive,
      if_neg hmonthFront]
  have htake : (year ++ '-' :: (month ++ '-' :: day)).take 10 = year ++ '-' :: (month ++ '-' :: day) :=
    List.take_of_length_le (Nat.le_of_eq hlength)
  have hdrop : (year ++ '-' :: (month ++ '-' :: day)).drop 10 = [] :=
    List.drop_eq_nil_of_le (Nat.le_of_eq hlength)
  have hbytes : Iso.byBytes (year ++ '-' :: (month ++ '-' :: day)) = year ++ '-' :: (month ++ '-' :: day) := by
    have hdigit {c : Char} (h : c.isDigit = true) : c.toNat < 0x80 :=
      Nat.lt_of_le_of_lt (Char.isDigit_iff_toNat.1 h).2 (by decide)
    refine Iso.byBytes_eq_self fun c hc => ?_
    simp only [List.mem_append, List.mem_cons] at hc
    rcases hc with hc | rfl | hc | rfl | hc
    · exact hdigit (hyear.isDigit c hc)
    · decide
    · exact hdigit (hmonth.isDigit c hc)
    · decide
    · exact hdigit (hday.isDigit c hc)
  rw [ofIso?, hbytes, hlength, hdateLength, if_neg (by decide)]
  simp only [htake, hread, hdrop]
  rfl

end RecordRules
