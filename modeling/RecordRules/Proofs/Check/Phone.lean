import RecordRules.Proofs.Check.Passing
import RecordRules.Proofs.Text.Shape

/-!
# Phone numbers

A phone number is made of groups of three, three and four digits, with signs between them and perhaps a
country digit in front (`Check.Phone`, `Check.fits_phoneShape_iff`). Where signs stand side by side there is
more than one way to tell which part they belong to; but signs are no digits, so each way counts ten digits,
or eleven with the country digit (`Check.Phone.countP_text`). Digits without signs are a phone number if there
are ten or eleven of them (`Check.fits_phoneShape_iff_of_digits`). As an optional rule it is passed by the
empty text too, which has no digits (`Check.phoneNumber_empty`), and it says this of all other texts
(`Check.phoneNumber_digits`).
-/

namespace RecordRules.Check

open Text (Shape wordsOf wordsUpTo)

/-! ## Signs -/

/-- True of the signs that may stand before the first group. -/
def isOpening (c : Char) : Bool := isPhoneSeparator c || c == '(' || c == '['

/-- True of the signs that may stand after the first group. -/
def isClosing (c : Char) : Bool := isPhoneSeparator c || c == ')' || c == ']'

/-- Signs as they stand between the digits of a phone number. -/
def AreSigns (w : List Char) : Prop := ∀ c ∈ w, isOpening c = true ∨ isClosing c = true

section
variable {c : Char} {w : List Char}

/-- White space and six other characters are signs. -/
theorem isSign_iff : isOpening c = true ∨ isClosing c = true ↔
    Text.isAsciiBlank c = true ∨ c ∈ ['(', ')', '[', ']', '-', '.'] := by
  simp only [isOpening, isClosing, isPhoneSeparator, Bool.or_eq_true, beq_iff_eq, List.mem_cons,
    List.not_mem_nil, or_false]
  tauto

/-- No sign is a digit. -/
theorem isDigit_of_isSign (h : isOpening c = true ∨ isClosing c = true) : c.isDigit = false := by
  rcases isSign_iff.1 h with hblank | hsign
  · rw [Text.isAsciiBlank, Bool.or_eq_true, beq_iff_eq] at hblank
    rcases hblank with rfl | hcontrol
    · rfl
    · have hlow : 9 ≤ c.toNat ∧ c.toNat ≤ 13 := by simpa using hcontrol
      rw [Bool.eq_false_iff, ne_eq, Char.isDigit_iff_toNat]
      show ¬ (48 ≤ c.toNat ∧ c.toNat ≤ 57)
      omega
  · have hall : ['(', ')', '[', ']', '-', '.'].all (!·.isDigit) = true := by decide
    simpa using List.all_eq_true.1 hall c hsign

/-- Signs are no digits. -/
theorem AreSigns.countP_isDigit (h : AreSigns w) : w.countP Char.isDigit = 0 :=
  List.countP_eq_zero.2 fun c hc => Bool.eq_false_iff.1 (isDigit_of_isSign (h c hc))

end

/-! ## The form of phone numbers -/

/-- A separator or nothing. -/
def phoneGap : Language Char := 1 + wordsOf 1 isPhoneSeparator

/-- The parts of a phone number. -/
structure Phone where
  country : List Char
  opening : List Char
  area : List Char
  closing : List Char
  exchange : List Char
  gap : List Char
  line : List Char
  country_mem : country ∈ 1 + wordsOf 1 Char.isDigit * phoneGap
  opening_mem : opening ∈ wordsUpTo 2 isOpening
  area_mem : area ∈ wordsOf 3 Char.isDigit
  closing_mem : closing ∈ wordsUpTo 2 isClosing
  exchange_mem : exchange ∈ wordsOf 3 Char.isDigit
  gap_mem : gap ∈ phoneGap
  line_mem : line ∈ wordsOf 4 Char.isDigit

namespace Phone

/-- The parts one after the other. -/
def parts (p : Phone) : List (List Char) :=
  [p.country, p.opening, p.area, p.closing, p.exchange, p.gap, p.line]

/-- The text of a phone number. -/
def text (p : Phone) : List Char := p.parts.flatten

end Phone

section
variable {s w : List Char}

/-- **The form of phone numbers**: a text has it if it is made of the parts of one. -/
theorem fits_phoneShape_iff : phoneShape.fits s = true ↔ ∃ p : Phone, p.text = s := by
  have hdigits (n : Nat) : (phoneDigits n).Denotes (wordsOf n Char.isDigit) := Shape.times_one_denotes
  have hgap : phoneSeparator.Denotes phoneGap := Shape.one_denotes.opt
  have hopening : (Shape.upTo 2 (.one isOpening)).Denotes _ := Shape.upTo_one_denotes
  have hclosing : (Shape.upTo 2 (.one isClosing)).Denotes _ := Shape.upTo_one_denotes
  have hshape : phoneShape.Denotes _ := Shape.all_denotes <|
    .cons ((hdigits 1).andThen hgap).opt <| .cons hopening <| .cons (hdigits 3) <| .cons hclosing <|
    .cons (hdigits 3) <| .cons hgap <| .cons (hdigits 4) .nil
  rw [hshape.fits_iff, Text.mem_prod_iff]
  constructor
  · rintro ⟨_, _ | ⟨hcountry, _ | ⟨hopening, _ | ⟨harea, _ | ⟨hclosing, _ | ⟨hexchange, _ | ⟨hgap,
      _ | ⟨hline, _ | _⟩⟩⟩⟩⟩⟩⟩, hs⟩
    exact ⟨⟨_, _, _, _, _, _, _, hcountry, hopening, harea, hclosing, hexchange, hgap, hline⟩, hs⟩
  · rintro ⟨p, hs⟩
    exact ⟨p.parts, .cons p.country_mem <| .cons p.opening_mem <| .cons p.area_mem <|
      .cons p.closing_mem <| .cons p.exchange_mem <| .cons p.gap_mem <| .cons p.line_mem .nil, hs⟩

/-! ## Counting digits -/

/-- So many digits count as so many. -/
theorem countP_of_mem_wordsOf {n : Nat} (h : w ∈ wordsOf n Char.isDigit) : w.countP Char.isDigit = n :=
  (List.countP_eq_length.2 h.2).trans h.1

/-- What stands between two groups of digits are signs. -/
theorem areSigns_of_mem_phoneGap (h : w ∈ phoneGap) : AreSigns w := by
  rcases (Language.mem_add _ _ _).1 h with h | h
  · obtain rfl := (Language.mem_one _).1 h
    exact List.forall_mem_nil _
  · intro c hc
    have hseparator : isPhoneSeparator c = true := h.2 c hc
    exact .inl (by rw [isOpening, hseparator, Bool.true_or, Bool.true_or])

/-- In front there is nothing, or a digit and signs. -/
theorem Phone.country_cases (p : Phone) : p.country = [] ∨
    ∃ digit gap, p.country = digit ++ gap ∧ digit ∈ wordsOf 1 Char.isDigit ∧ AreSigns gap := by
  rcases (Language.mem_add _ _ _).1 p.country_mem with h | h
  · exact .inl ((Language.mem_one _).1 h)
  · obtain ⟨digit, hdigit, gap, hgap, hcountry⟩ := Language.mem_mul.1 h
    exact .inr ⟨digit, gap, hcountry.symm, hdigit, areSigns_of_mem_phoneGap hgap⟩

/-- The prefix of the country has one digit if it is there. -/
theorem Phone.countP_country (p : Phone) :
    p.country.countP Char.isDigit = 0 ∨ p.country.countP Char.isDigit = 1 := by
  rcases p.country_cases with hnone | ⟨digit, gap, hcountry, hdigit, hgap⟩
  · rw [hnone]
    exact .inl rfl
  · rw [hcountry, List.countP_append, countP_of_mem_wordsOf hdigit, hgap.countP_isDigit]
    exact .inr rfl

/-- **The digits of a phone number** are ten, or eleven with that of the country. -/
theorem Phone.countP_text (p : Phone) :
    p.text.countP Char.isDigit = 10 ∨ p.text.countP Char.isDigit = 11 := by
  have hopening : AreSigns p.opening := fun c hc => .inl (p.opening_mem.2 c hc)
  have hclosing : AreSigns p.closing := fun c hc => .inr (p.closing_mem.2 c hc)
  have hcountry := p.countP_country
  simp only [text, parts, List.countP_flatten, List.map_cons, List.map_nil, List.sum_cons, List.sum_nil,
    hopening.countP_isDigit, hclosing.countP_isDigit, (areSigns_of_mem_phoneGap p.gap_mem).countP_isDigit,
    countP_of_mem_wordsOf p.area_mem, countP_of_mem_wordsOf p.exchange_mem,
    countP_of_mem_wordsOf p.line_mem]
  omega

/-- A phone number is made of digits and signs. -/
theorem Phone.isDigit_or_isSign (p : Phone) :
    ∀ c ∈ p.text, c.isDigit = true ∨ isOpening c = true ∨ isClosing c = true := by
  have hcountry : ∀ c ∈ p.country, c.isDigit = true ∨ isOpening c = true ∨ isClosing c = true := by
    rcases p.country_cases with hnone | ⟨digit, gap, hcountry, hdigit, hgap⟩
    · rw [hnone]
      exact List.forall_mem_nil _
    · rw [hcountry, List.forall_mem_append]
      exact ⟨fun c hc => .inl (hdigit.2 c hc), fun c hc => .inr (hgap c hc)⟩
  simp only [text, List.forall_mem_flatten, parts, List.forall_mem_cons]
  exact ⟨hcountry, fun c hc => .inr (.inl (p.opening_mem.2 c hc)), fun c hc => .inl (p.area_mem.2 c hc),
    fun c hc => .inr (.inr (p.closing_mem.2 c hc)), fun c hc => .inl (p.exchange_mem.2 c hc),
    fun c hc => .inr (areSigns_of_mem_phoneGap p.gap_mem c hc), fun c hc => .inl (p.line_mem.2 c hc),
    List.forall_mem_nil _⟩

/-- The last group stands at the end. -/
theorem Phone.line_suffix (p : Phone) : p.line <:+ p.text := by
  have hparts : p.parts = [p.country, p.opening, p.area, p.closing, p.exchange, p.gap] ++ [p.line] := rfl
  rw [text, hparts, List.flatten_append, List.flatten_singleton]
  exact List.suffix_append _ _

/-! ## Digits without signs -/

/-- Ten digits are the groups of a phone number, with a digit in front of them or not. -/
theorem fits_phoneShape_append {country groups : List Char} (hcountry : country = [] ∨
    country ∈ wordsOf 1 Char.isDigit) (hgroups : groups ∈ wordsOf 10 Char.isDigit) :
    phoneShape.fits (country ++ groups) = true := by
  have hsplit : wordsOf 10 Char.isDigit =
      wordsOf 3 Char.isDigit * (wordsOf 3 Char.isDigit * wordsOf 4 Char.isDigit) := by
    rw [← Text.wordsOf_add, ← Text.wordsOf_add]
  rw [hsplit] at hgroups
  obtain ⟨area, harea, rest, hrest, rfl⟩ := Language.mem_mul.1 hgroups
  obtain ⟨exchange, hexchange, line, hline, rfl⟩ := Language.mem_mul.1 hrest
  have hfront : country ∈ 1 + wordsOf 1 Char.isDigit * phoneGap := by
    rcases hcountry with rfl | hdigit
    · exact .inl rfl
    · exact .inr (Language.mem_mul.2 ⟨country, hdigit, [], .inl rfl, List.append_nil country⟩)
  have hnone (p : Char → Bool) : [] ∈ wordsUpTo 2 p := ⟨Nat.zero_le 2, List.forall_mem_nil _⟩
  exact fits_phoneShape_iff.2 ⟨⟨country, [], area, [], exchange, [], line, hfront, hnone _, harea, hnone _,
    hexchange, .inl rfl, hline⟩, by simp [Phone.text, Phone.parts]⟩

/-- **Digits alone** are a phone number if there are ten or eleven of them. -/
theorem fits_phoneShape_iff_of_digits (hdigits : ∀ c ∈ s, c.isDigit = true) :
    phoneShape.fits s = true ↔ s.length = 10 ∨ s.length = 11 := by
  constructor
  · intro hfits
    obtain ⟨p, rfl⟩ := fits_phoneShape_iff.1 hfits
    rw [← List.countP_eq_length.2 hdigits]
    exact p.countP_text
  · rintro (hten | heleven)
    · exact fits_phoneShape_append (.inl rfl) ⟨hten, hdigits⟩
    · rw [← List.take_append_drop 1 s]
      have hall : (∀ c ∈ s.take 1, c.isDigit = true) ∧ ∀ c ∈ s.drop 1, c.isDigit = true :=
        ⟨fun c hc => hdigits c (List.mem_of_mem_take hc), fun c hc => hdigits c (List.mem_of_mem_drop hc)⟩
      exact fits_phoneShape_append (.inr ⟨by simp [heleven], hall.1⟩) ⟨by simp [heleven], hall.2⟩

end

/-! ## The rule -/

section
variable {field s : String} {record : Record} {param : Option String}

/-- A text that is not empty passes if it has the form. -/
theorem phoneNumber_passes_iff (hvalue : record.value field = .text s) (hne : s ≠ "") :
    phoneNumber field record param = .ok none ↔ phoneShape.fits s.toList = true := by
  have hblank : (record.value field).isBlank = false := by
    rw [hvalue]
    exact Value.isBlank_text (mt String.toList_eq_nil_iff.1 hne)
  rw [phoneNumber, ofText, ofTest_passes_iff hblank, hvalue]
  show Except.ok (phoneShape.fits s.toList) = .ok true ↔ _
  rw [Except.ok.injEq]

/-- **Phone numbers carry ten or eleven digits**: a text that is not empty and passes is made of digits, of
white space and of six other signs, has ten or eleven digits and ends in four of them. Digits alone pass if
there are ten or eleven of them. -/
theorem phoneNumber_digits (hvalue : record.value field = .text s) (hne : s ≠ "") :
    (phoneNumber field record param = .ok none →
      (∀ c ∈ s.toList, c.isDigit = true ∨ Text.isAsciiBlank c = true ∨
        c ∈ ['(', ')', '[', ']', '-', '.']) ∧
      (s.toList.countP Char.isDigit = 10 ∨ s.toList.countP Char.isDigit = 11) ∧
      ∃ line, line <:+ s.toList ∧ line.length = 4 ∧ ∀ c ∈ line, c.isDigit = true) ∧
    ((∀ c ∈ s.toList, c.isDigit = true) →
      (phoneNumber field record param = .ok none ↔ s.length = 10 ∨ s.length = 11)) := by
  rw [phoneNumber_passes_iff hvalue hne]
  constructor
  · intro hfits
    obtain ⟨p, hp⟩ := fits_phoneShape_iff.1 hfits
    rw [← hp]
    exact ⟨fun c hc => (p.isDigit_or_isSign c hc).imp_right isSign_iff.1, p.countP_text, p.line,
      p.line_suffix, p.line_mem⟩
  · intro hdigits
    rw [fits_phoneShape_iff_of_digits hdigits, String.length_toList]

/-- A number with a country digit and signs of many kinds, one of digits alone, and one that is too short. -/
theorem phoneNumber_digits_country :
    let record : Record := [("signs", .text "1.[(519)\t555-4444"), ("digits", .text "15195554444"),
      ("short", .text "5554444")]
    phoneNumber "signs" record none = .ok none ∧
      ("1.[(519)\t555-4444".toList.countP Char.isDigit = 10 ∨
        "1.[(519)\t555-4444".toList.countP Char.isDigit = 11) ∧
      phoneNumber "digits" record none = .ok none ∧ phoneNumber "short" record none ≠ .ok none := by
  intro record
  have hsigns : phoneNumber "signs" record none = .ok none :=
    (phoneNumber_passes_iff rfl (by decide)).2 (by decide +kernel)
  obtain ⟨hcounted, -⟩ := @phoneNumber_digits "signs" _ record none rfl (by decide)
  obtain ⟨-, hdigits⟩ := @phoneNumber_digits "digits" "15195554444" record none rfl (by decide)
  obtain ⟨-, hshort⟩ := @phoneNumber_digits "short" "5554444" record none rfl (by decide)
  refine ⟨hsigns, (hcounted hsigns).2.1, (hdigits (List.all_eq_true.1 (by decide))).2 (by decide), fun h => ?_⟩
  exact absurd ((hshort (List.all_eq_true.1 (by decide))).1 h) (by decide)

/-- The empty text passes, though it has no digits. -/
theorem phoneNumber_empty :
    let record : Record := [("phone", .text "")]
    phoneNumber "phone" record none = .ok none ∧
      ¬("".toList.countP Char.isDigit = 10 ∨ "".toList.countP Char.isDigit = 11) :=
  ⟨rfl, by decide⟩

end

end RecordRules.Check
