import Mathlib.Tactic.IntervalCases
import RecordRules.Proofs.Calendar.Reading

/-!
# Dates that survive reading and writing

A text survives reading and writing in a default format exactly if it gives a date, or a date and a time of
day, of a year with four digits (`Calendar.roundTrips_dateFormat_iff`, `Calendar.roundTrips_momentFormat_iff`).
What is written is so by itself, apart from the year, which is not padded; but a text that does not begin with
four digits is not read (`Calendar.year_of_read?_eq_some`). Conversely, the pattern takes such a text, and the
parts that it captures make the moment again (`Calendar.read?_momentFormat`).
-/

namespace RecordRules

/-- A year of four digits is written as it stands. -/
theorem Number.isPadded_written {n : Nat} (hlower : 1000 ≤ n) (hupper : n ≤ 9999) :
    IsPadded 4 n (written n) := by
  have hle : (written n).length ≤ 4 := (Nat.length_toDigits_le_iff (by decide) (by decide)).2 (by omega)
  have hlt : ¬(written n).length ≤ 3 := fun h =>
    absurd ((Nat.length_toDigits_le_iff (by decide) (by decide)).1 h) (by omega)
  exact ⟨by omega, fun c => isDigit_of_mem_written, Nat.ofDigitChars_toDigits (by decide) (by decide)⟩

namespace Calendar

open Pattern (Effect Leaf Node Tree)

variable {f : Format} {tree : Tree} {s : List Char} {d : Date} {m : Moment}

/-! ## Reading -/

/-- Padding zeros do not change the number that is read. -/
theorem numberOf_of_isPadded {width n : Nat} (h : Number.IsPadded width n s) : numberOf s = n := by
  have hvalues : s.filterMap Text.digitValue? = Numeral.values s := by
    rw [Numeral.values, ← List.filterMap_eq_map]
    exact List.filterMap_congr fun c hc => Number.digitValue?_of_isDigit (h.isDigit c hc)
  rw [numberOf, hvalues, Numeral.ofDigits_values, h.val]

namespace Parts

/-- A moment has a time of day. -/
theorem isOnClock_of_moment? {p : Parts} {zoneName : Option (List Char)} (h : p.moment? zoneName = some m) :
    m.time.IsOnClock := by
  unfold moment? at h
  split at h
  · cases h
  · obtain ⟨date, -, h⟩ := Option.bind_eq_some_iff.1 h
    obtain ⟨zone, -, h⟩ := Option.bind_eq_some_iff.1 h
    split at h
    · next htime =>
      cases h
      simpa [TimeOfDay.IsOnClock, and_assoc] using htime
    · cases h

/-- The year, the month and the day of a date and a time of day make a moment. -/
theorem moment?_of_date {hour minute second : Nat} (hhour : hour < 24) (hminute : minute < 60)
    (hsecond : second < 60) :
    moment? { year := some d.year, month := d.month, day := d.day, hour, minute, second } none =
      some ⟨d, ⟨hour, minute, second, 0⟩, none⟩ := by
  have hdate :
      date? { year := some d.year, month := d.month, day := d.day, hour, minute, second } = some d := by
    simp [date?, weekPlace?, d.of?_date]
  simp [moment?, isoComplete, hdate, zone?, hhour, hminute, hsecond]

end Parts

namespace Format

/-- A text makes the round trip when what is read from it is written as it was. -/
theorem roundTrips_eq_true_iff :
    f.roundTrips s = .ok true ↔ ∃ m, f.read? s = .ok (some m) ∧ f.write m = s := by
  rw [roundTrips]
  cases h : f.read? s with
  | error e => simp [bind, Except.bind]
  | ok read => cases read <;> simp [bind, Except.bind, pure, Except.pure]

/-- What is read has been matched, and is a moment. -/
theorem of_read?_eq_some (htree : Tree.read { ignoreCase := true } f.pattern = .ok tree)
    (h : f.read? s = .ok (some m)) :
    (tree.matchAt? s.toArray 0).isSome = true ∧ m.time.IsOnClock := by
  rw [read?, htree] at h
  obtain ⟨found, hfound, h⟩ := Option.bind_eq_some_iff.1 (Except.ok.inj h)
  refine ⟨by rw [hfound]; rfl, ?_⟩
  split at h
  · cases h
  · obtain ⟨parts, -, h⟩ := Option.bind_eq_some_iff.1 h
    exact Parts.isOnClock_of_moment? h

/-- A text that is matched as a whole is read by its captures. -/
theorem read?_of_captures {found : Pattern.Match} {captured : List (Directive × List Char)} {parts : Parts}
    (htree : Tree.read { ignoreCase := true } f.pattern = .ok tree)
    (hfound : tree.matchAt? s.toArray 0 = some found) (hlast : found.last = s.length)
    (hcaptured : f.captures tree found s = captured)
    (hparts : captured.foldlM (fun p (d, s) => Parts.take? (captured.lookup .half) p d s) {} = some parts) :
    f.read? s = .ok (parts.moment? (captured.lookup .zone)) := by
  rw [read?, htree]
  show Except.ok _ = _
  rw [hfound]
  show Except.ok (if found.last ≠ s.length then none else _) = _
  rw [if_neg (not_not.2 hlast), hcaptured, hparts]
  rfl

end Format

/-! ## Years of four digits -/

/-- Of a text whose beginning is matched as a year the first four characters are decimal digits. -/
theorem isDecimalDigit_of_isSome_year {text : Array Char} {k : Pattern.Continuation} {marks : Pattern.Marks}
    (h : (yearNode.run text k 0 marks).isSome = true) :
    ∀ i < 4, ∃ c, text[i]? = some c ∧ Text.isDecimalDigit c = true := by
  obtain ⟨a, ha, hadigit, h⟩ := Node.accepts_of_isSome_leaf_seq h
  obtain ⟨b, hb, hbdigit, h⟩ := Node.accepts_of_isSome_leaf_seq h
  obtain ⟨c, hc, hcdigit, h⟩ := Node.accepts_of_isSome_leaf_seq h
  obtain ⟨d, hd, hddigit, -⟩ := Node.accepts_of_isSome_leaf h
  rw [anyDigit_accepts] at hadigit hbdigit hcdigit hddigit
  intro i hi
  interval_cases i
  · exact ⟨a, ha, hadigit⟩
  · exact ⟨b, hb, hbdigit⟩
  · exact ⟨c, hc, hcdigit⟩
  · exact ⟨d, hd, hddigit⟩

/-- A year that is written before a hyphen and matched has four digits. -/
theorem year_of_isSome {n : Nat} {rest : List Char} {k : Pattern.Continuation} {marks : Pattern.Marks}
    (h : (yearNode.run (Number.written n ++ '-' :: rest).toArray k 0 marks).isSome = true) : 1000 ≤ n := by
  by_contra hsmall
  have hlength : (Number.written n).length ≤ 3 :=
    (Nat.length_toDigits_le_iff (by decide) (by decide)).2 (by omega)
  obtain ⟨c, hc, hdigit⟩ := isDecimalDigit_of_isSome_year h _ (Nat.lt_of_le_of_lt hlength (by decide))
  rw [Node.getElem?_at] at hc
  cases hc
  exact absurd hdigit (by decide)

/-- A match of a date begins with a match of the year. -/
theorem isSome_year_of_isSome_matchAt? {rest : Node} {text : Array Char}
    (hroot : tree.root = yearMonthNode rest) (h : (tree.matchAt? text 0).isSome = true) :
    ∃ k marks, (yearNode.run text k 0 marks).isSome = true := by
  rw [Tree.matchAt?, hroot, Option.isSome_map] at h
  exact Node.isSome_of_isSome_capture_seq h

/-- How a date is written without padding its year. -/
def dateText (d : Date) : List Char :=
  Number.written d.year ++ '-' :: ((padded 2 d.month).toList ++ '-' :: (padded 2 d.day).toList)

/-- How a time of day is written to the second. -/
def clockText (t : TimeOfDay) : List Char :=
  (padded 2 t.hour).toList ++ ':' :: ((padded 2 t.minute).toList ++ ':' :: (padded 2 t.second).toList)

/-- A year of four digits needs no padding. -/
theorem dateText_eq (hyear : 1000 ≤ d.year) : dateText d = d.text.toList := by
  obtain ⟨year, month, day, hyear', hmonth, hday, htext⟩ := d.isWritten_text
  have hbounds := d.bounds
  have hdayBound := d.day_le
  have hmonth' : Number.IsPadded 2 d.month (padded 2 d.month).toList :=
    Number.isPadded_padded (by decide) (by omega)
  have hday' : Number.IsPadded 2 d.day (padded 2 d.day).toList :=
    Number.isPadded_padded (by decide) (by omega)
  rw [dateText, htext, hyear'.eq (Number.isPadded_written hyear hbounds.1.2), hmonth.eq hmonth',
    hday.eq hday']

/-- A time of day is written in exactly one way. -/
theorem isWritten_iff_eq_clockText {t : TimeOfDay} (h : t.IsOnClock) : t.IsWritten s ↔ s = clockText t := by
  obtain ⟨hhour, hminute, hsecond⟩ := h
  have hpadded {n : Nat} (hn : n < 60) : Number.IsPadded 2 n (padded 2 n).toList :=
    Number.isPadded_padded (by decide) (Nat.lt_trans hn (by decide))
  have hhour' := hpadded (Nat.lt_trans hhour (by decide))
  have hminute' := hpadded hminute
  have hsecond' := hpadded hsecond
  constructor
  · rintro ⟨hour, minute, second, h₁, h₂, h₃, hs⟩
    rw [hs, clockText, h₁.eq hhour', h₂.eq hminute', h₃.eq hsecond']
  · intro hs
    exact ⟨_, _, _, hhour', hminute', hsecond', hs⟩

/-- The date format writes dates as they are shown. -/
theorem write_dateFormat (m : Moment) : dateFormat.write m = dateText m.date := by
  have hyear : m.date.year.repr.toList = Number.written m.date.year := Nat.toList_repr
  rw [dateText, ← hyear]
  simp [Format.write, dateFormat, Format.piece, Format.part]

/-- Likewise with a time of day. -/
theorem write_momentFormat (m : Moment) :
    momentFormat.write m = dateText m.date ++ ' ' :: clockText m.time := by
  have hyear : m.date.year.repr.toList = Number.written m.date.year := Nat.toList_repr
  rw [dateText, clockText, ← hyear]
  simp [Format.write, momentFormat, dateFormat, Format.piece, Format.part]

/-- A moment that is written and read again has a year of four digits. -/
theorem year_of_read?_eq_some {rest : Node} (htree : Tree.read { ignoreCase := true } f.pattern = .ok tree)
    (hroot : tree.root = yearMonthNode rest) (tail : List Char)
    (hread : f.read? (dateText m.date ++ tail) = .ok (some m)) : 1000 ≤ m.date.year := by
  have hmatched := (Format.of_read?_eq_some htree hread).1
  obtain ⟨k, marks, hyear⟩ := isSome_year_of_isSome_matchAt? hroot hmatched
  rw [dateText, List.append_assoc] at hyear
  exact year_of_isSome hyear

/-! ## Texts that are taken -/

section
variable {rest : Node} {year month day after tail : List Char} {effect : Effect}

/-- The year and the month, each followed by a hyphen. -/
theorem takes_yearMonth (hyear : Number.IsPadded 4 d.year year) (hmonth : Number.IsPadded 2 d.month month)
    (hrest : rest.Takes tail after effect) :
    (yearMonthNode rest).Takes (year ++ '-' :: (month ++ '-' :: tail)) after
      (.andThen 4 (.group 1 4) (.andThen 1 .keep (.andThen 2 (.group 2 2) (.andThen 1 .keep effect)))) := by
  have hbounds := d.bounds
  have hmonthRest := ((takes_month hmonth (by omega) (by omega)).capture 2 hmonth.length).seq
    ((takes_same '-').seq hrest rfl) hmonth.length
  exact ((takes_year hyear).capture 1 hyear.length).seq ((takes_same '-').seq hmonthRest rfl) hyear.length

/-- The day, in its group. -/
theorem takes_dayOfMonth (hday : Number.IsPadded 2 d.day day) :
    (Node.capture 3 dayNode).Takes day after (.group 3 2) :=
  (takes_day hday d.bounds.2.2.1 d.day_le).capture 3 hday.length

/-- The hour, the minute and the second, with colons between them. -/
theorem takes_clock {t : TimeOfDay} (ht : t.IsOnClock) {clock : List Char} (h : t.IsWritten clock) :
    clockNode.Takes clock [] (.andThen 2 (.group 4 2) (.andThen 1 .keep (.andThen 2 (.group 5 2)
      (.andThen 1 .keep (.group 6 2))))) := by
  obtain ⟨hour, minute, second, hhour, hminute, hsecond, rfl⟩ := h
  have hsecondTakes : (Node.capture 6 secondNode).Takes second [] (.group 6 2) :=
    (takes_second hsecond ht.2.2).capture 6 hsecond.length
  have hminuteTakes := ((takes_minute hminute ht.2.1).capture 5 hminute.length).seq
    ((takes_same ':').seq hsecondTakes rfl) hminute.length
  exact ((takes_hour hhour ht.1).capture 4 hhour.length).seq ((takes_same ':').seq hminuteTakes rfl) hhour.length

end

/-! ## What is captured -/

/-- Where the parts of a date are. -/
def dateSpans : List (Option (Nat × Nat)) := [some (0, 4), some (5, 7), some (8, 10)]

/-- Where the parts of a date with a time of day are. -/
def momentSpans : List (Option (Nat × Nat)) := dateSpans ++ [some (11, 13), some (14, 16), some (17, 19)]

section
variable {year month day hour minute second : List Char}

/-- What the groups of the date format hold. -/
theorem captures_dateFormat (hyear : year.length = 4) (hmonth : month.length = 2) (hday : day.length = 2) :
    dateFormat.captures dateTree ⟨0, 10, dateSpans⟩ (year ++ '-' :: (month ++ '-' :: day)) =
      [(.year, year), (.month, month), (.day, day)] := by
  obtain ⟨a, year, rfl⟩ := List.exists_cons_of_length_eq_add_one hyear
  obtain ⟨b, c, d, rfl⟩ := List.length_eq_three.1 (Nat.succ.inj hyear)
  obtain ⟨e, f, rfl⟩ := List.length_eq_two.1 hmonth
  obtain ⟨g, h, rfl⟩ := List.length_eq_two.1 hday
  -- With every character named, the spans cut the text as it stands.
  rfl

/-- What the groups hold with a time of day. -/
theorem captures_momentFormat (hyear : year.length = 4) (hmonth : month.length = 2) (hday : day.length = 2)
    (hhour : hour.length = 2) (hminute : minute.length = 2) (hsecond : second.length = 2) :
    momentFormat.captures momentTree ⟨0, 19, momentSpans⟩
      (year ++ '-' :: (month ++ '-' :: (day ++ ' ' :: (hour ++ ':' :: (minute ++ ':' :: second))))) =
        [(.year, year), (.month, month), (.day, day), (.hour, hour), (.minute, minute), (.second, second)] := by
  obtain ⟨a, year, rfl⟩ := List.exists_cons_of_length_eq_add_one hyear
  obtain ⟨b, c, d, rfl⟩ := List.length_eq_three.1 (Nat.succ.inj hyear)
  obtain ⟨e, f, rfl⟩ := List.length_eq_two.1 hmonth
  obtain ⟨g, h, rfl⟩ := List.length_eq_two.1 hday
  obtain ⟨i, j, rfl⟩ := List.length_eq_two.1 hhour
  obtain ⟨k, l, rfl⟩ := List.length_eq_two.1 hminute
  obtain ⟨m, n, rfl⟩ := List.length_eq_two.1 hsecond
  rfl

end

/-- The year, the month, the day and the parts of a time of day are taken in as they are captured. -/
theorem parts_of_captured (year month day hour minute second : List Char) :
    ([(.year, year), (.month, month), (.day, day), (.hour, hour), (.minute, minute), (.second, second)] :
      List (Directive × List Char)).foldlM (fun p (d, s) => Parts.take? none p d s) {} =
      some
        { year := some (numberOf year), month := numberOf month, day := numberOf day
          hour := numberOf hour, minute := numberOf minute, second := numberOf second } := rfl

/-! ## Round trips -/

/-- A written date is read as that date, at midnight. -/
theorem read?_dateFormat (h : d.IsWritten s) :
    dateFormat.read? s = .ok (some ⟨d, ⟨0, 0, 0, 0⟩, none⟩) := by
  obtain ⟨year, month, day, hyear, hmonth, hday, rfl⟩ := h
  have hlength : (year ++ '-' :: (month ++ '-' :: day)).length = 10 := by
    simp [hyear.length, hmonth.length, hday.length]
  have hfound : dateTree.matchAt? (year ++ '-' :: (month ++ '-' :: day)).toArray 0 =
      some ⟨0, 10, dateSpans⟩ := by
    -- The marks depend on the widths alone.
    rw [Tree.matchAt?_of_takes (takes_yearMonth hyear hmonth (takes_dayOfMonth hday)), hlength]
    rfl
  have hcaptured := captures_dateFormat hyear.length hmonth.length hday.length
  rw [Format.read?_of_captures read_dateFormat hfound hlength.symm hcaptured rfl, numberOf_of_isPadded hyear,
    numberOf_of_isPadded hmonth, numberOf_of_isPadded hday]
  exact congrArg Except.ok (Parts.moment?_of_date (Nat.succ_pos 23) (Nat.succ_pos 59) (Nat.succ_pos 59))

/-- A written date and time of day are read as they are. -/
theorem read?_momentFormat {t : TimeOfDay} {date clock : List Char} (ht : t.IsOnClock)
    (hdate : d.IsWritten date) (hclock : t.IsWritten clock) : momentFormat.read? (date ++ ' ' :: clock) =
      .ok (some ⟨d, ⟨t.hour, t.minute, t.second, 0⟩, none⟩) := by
  have hclockTakes := takes_clock ht hclock
  -- The run of white space ends at the first digit of the hour.
  have hgap : gapNode.Takes [' '] (clock ++ []) .keep :=
    takes_gap fun c hc => hclock.isDigit_of_mem_head? (by rwa [List.append_nil] at hc)
  obtain ⟨year, month, day, hyear, hmonth, hday, rfl⟩ := hdate
  obtain ⟨hour, minute, second, hhour, hminute, hsecond, rfl⟩ := hclock
  have htext : year ++ '-' :: (month ++ '-' :: day) ++ ' ' :: (hour ++ ':' :: (minute ++ ':' :: second)) =
      year ++ '-' :: (month ++ '-' :: (day ++ ' ' :: (hour ++ ':' :: (minute ++ ':' :: second)))) := by
    simp only [List.append_assoc, List.cons_append]
  have htakes := takes_yearMonth hyear hmonth
    ((takes_dayOfMonth hday).seq (hgap.seq hclockTakes rfl) hday.length)
  have hcaptured := captures_momentFormat hyear.length hmonth.length hday.length hhour.length hminute.length
    hsecond.length
  rw [htext]
  have hlength : (year ++ '-' :: (month ++ '-' :: (day ++ ' ' ::
      (hour ++ ':' :: (minute ++ ':' :: second))))).length = 19 := by
    simp [hyear.length, hmonth.length, hday.length, hhour.length, hminute.length, hsecond.length]
  have hfound : momentTree.matchAt? (year ++ '-' :: (month ++ '-' :: (day ++ ' ' ::
      (hour ++ ':' :: (minute ++ ':' :: second))))).toArray 0 = some ⟨0, 19, momentSpans⟩ := by
    rw [Tree.matchAt?_of_takes htakes, hlength]
    rfl
  rw [Format.read?_of_captures read_momentFormat hfound hlength.symm hcaptured
    (parts_of_captured year month day hour minute second), numberOf_of_isPadded hyear,
    numberOf_of_isPadded hmonth, numberOf_of_isPadded hday, numberOf_of_isPadded hhour,
    numberOf_of_isPadded hminute, numberOf_of_isPadded hsecond]
  exact congrArg Except.ok (Parts.moment?_of_date ht.1 ht.2.1 ht.2.2)

/-- **Dates** survive if their year has four digits, and no other text does. -/
theorem roundTrips_dateFormat_iff :
    dateFormat.roundTrips s = .ok true ↔ ∃ d : Date, 1000 ≤ d.year ∧ d.IsWritten s := by
  rw [Format.roundTrips_eq_true_iff]
  constructor
  · rintro ⟨m, hread, hwrite⟩
    rw [write_dateFormat] at hwrite
    have hyear : 1000 ≤ m.date.year := by
      refine year_of_read?_eq_some read_dateFormat rfl [] ?_
      rw [List.append_nil, hwrite, hread]
    exact ⟨m.date, hyear, Date.isWritten_iff_eq.2 (by rw [← hwrite, dateText_eq hyear])⟩
  · rintro ⟨d, hyear, hwritten⟩
    refine ⟨_, read?_dateFormat hwritten, ?_⟩
    rw [write_dateFormat, dateText_eq hyear, Date.isWritten_iff_eq.1 hwritten]

/-- **Dates with a time of day** survive if their year has four digits, and no other text does. -/
theorem roundTrips_momentFormat_iff : momentFormat.roundTrips s = .ok true ↔ ∃ d : Date, 1000 ≤ d.year ∧
    ∃ (t : TimeOfDay) (date clock : List Char), t.IsOnClock ∧ d.IsWritten date ∧ t.IsWritten clock ∧
      s = date ++ ' ' :: clock := by
  rw [Format.roundTrips_eq_true_iff]
  constructor
  · rintro ⟨m, hread, hwrite⟩
    rw [write_momentFormat] at hwrite
    have htime : m.time.IsOnClock := (Format.of_read?_eq_some read_momentFormat hread).2
    have hyear : 1000 ≤ m.date.year := by
      refine year_of_read?_eq_some read_momentFormat rfl (' ' :: clockText m.time) ?_
      rw [hwrite, hread]
    exact ⟨m.date, hyear, m.time, _, _, htime, Date.isWritten_iff_eq.2 (dateText_eq hyear),
      (isWritten_iff_eq_clockText htime).2 rfl, hwrite.symm⟩
  · rintro ⟨d, hyear, t, date, clock, ht, hdate, hclock, rfl⟩
    refine ⟨_, read?_momentFormat ht hdate hclock, ?_⟩
    rw [write_momentFormat, dateText_eq hyear, Date.isWritten_iff_eq.1 hdate,
      (isWritten_iff_eq_clockText ht).1 hclock]
    rfl

end Calendar

end RecordRules
