import RecordRules.Proofs.Check.Passing
import RecordRules.Proofs.Pattern.Casing
import RecordRules.Proofs.Text.Letter

/-!
# Rules on the characters of texts

A rule on characters is passed by blank fields and by the values whose text is not empty and made of its
characters (`Check.everyRule_passes_iff`), so a rule that admits more characters is passed by more values
(`Check.everyRule_refines`, `Check.characterRules_ordered`). The Latin rules ignore case in all scripts, and
so admit seven characters besides the letters of ASCII and of the Latin-1 supplement: those that are the
same letter as one of these in another case (`Check.latinRules_exact`). The rule on names takes away the
decimal digits from the characters of words, and leaves the other numbers among them
(`Check.validName_exact`).
-/

namespace RecordRules

open Pattern (Member Leaf)

/-! ## Letters and numbers -/

namespace Text

/-- The letters of ASCII and of the Latin-1 supplement. -/
def latin : Ranges := [(0x41, 0x5a), (0x61, 0x7a), (0xc0, 0xd6), (0xd8, 0xf6), (0xf8, 0xff)]

/-- The characters elsewhere that are the same letter as one of these: the capital I with a dot and the small
one without, the capital Y with diaeresis, the long s, the capital sharp s, and the signs of kelvin and
ångström. -/
def lookAlikes : Ranges :=
  [(0x130, 0x131), (0x178, 0x178), (0x17f, 0x17f), (0x1e9e, 0x1e9e), (0x212a, 0x212b)]

/-- True of the letters of ASCII and of the Latin-1 supplement. -/
def isLatin (c : Char) : Bool := latin.has c.toNat

/-- True of the characters elsewhere that are the same letter as one of these in another case. -/
def isLookAlike (c : Char) : Bool := lookAlikes.has c.toNat

/-- True of the numbers that are neither letters nor decimal digits: superscripts, fractions, circled and
Roman numbers. -/
def isOtherNumber (c : Char) : Bool := numerals.has c.toNat && !isDecimalDigit c

/-- All of them are letters. -/
theorem latin_letters : ([latin, lookAlikes].all fun ranges => ranges.every letters.has) = true := by
  decide +kernel

/-- The letters of the Latin ranges, and those that fold into them, are letters. -/
theorem isLetter_of_isLatin {c : Char} (h : isLatin c = true ∨ isLookAlike c = true) :
    isLetter c = true := by
  rcases h with h | h
  · exact Ranges.of_every (List.all_eq_true.1 latin_letters latin (by simp)) h
  · exact Ranges.of_every (List.all_eq_true.1 latin_letters lookAlikes (by simp)) h

end Text

namespace Check

/-! ## Sets that ignore case -/

section
variable {c : Char} {members others : List Member}

/-- A character is in a set when a member accepts it, in Unicode's sense of case. -/
theorem inSet_eq_any : inSet members c = members.any (Member.accepts .unicode c) := by
  simp [inSet, Leaf.accepts]

/-- A set put together of two has the characters of both. -/
theorem inSet_append : inSet (members ++ others) c = true ↔
    inSet members c = true ∨ inSet others c = true := by
  rw [inSet_eq_any, inSet_eq_any, inSet_eq_any, List.any_append, Bool.or_eq_true]

/-- A larger set has more characters. -/
theorem inSet_of_subset (hsubset : members ⊆ others) (h : inSet members c = true) :
    inSet others c = true := by
  rw [inSet_eq_any, List.any_eq_true] at h ⊢
  obtain ⟨member, hmember, haccepts⟩ := h
  exact ⟨member, hsubset hmember, haccepts⟩

/-- A set of ranges that ignores case has the code points they are folded to. -/
theorem inSet_ranges_iff {ranges folded : Text.Ranges} (h : ranges.foldTo folded = true) :
    inSet (ranges.map fun r => .range r.1 r.2) c = true ↔ folded.has c.toNat = true := by
  rw [inSet_eq_any, List.any_map, List.any_eq_true, ← Text.Ranges.exists_sameLetter_iff h]
  exact exists_congr fun r => and_congr_right fun _ => Member.accepts_range_iff

/-- The ranges of the Latin rules: small letters, and capitals where they belong to the supplement. -/
def latinRanges : Text.Ranges := [(0x61, 0x7a), (0xc0, 0xd6), (0xd8, 0xf6), (0xf8, 0xff)]

/-- The Latin ranges fold to themselves and to the characters that are taken for theirs. -/
theorem latinRanges_foldTo : latinRanges.foldTo (Text.latin ++ Text.lookAlikes) = true := by
  decide +kernel

/-- **The Latin letters that ignore case** are those of ASCII and of the supplement, and seven others. -/
theorem inSet_latinLetters_iff :
    inSet latinLetters c = true ↔ Text.isLatin c = true ∨ Text.isLookAlike c = true := by
  rw [Text.isLatin, Text.isLookAlike, ← Bool.or_eq_true, ← Text.Ranges.has_append (by decide)]
  exact inSet_ranges_iff latinRanges_foldTo

/-- Digits and dashes have no case. -/
theorem foldTo_self_of_uncased {ranges : Text.Ranges}
    (h : ranges ∈ [[(0x30, 0x39)], [(0x2d, 0x2d), (0x5f, 0x5f)]]) : ranges.foldTo ranges = true := by
  have hall : ([[(0x30, 0x39)], [(0x2d, 0x2d), (0x5f, 0x5f)]].all fun ranges : Text.Ranges =>
      ranges.foldTo ranges) = true := by
    decide +kernel
  exact List.all_eq_true.1 hall ranges h

/-- The set of ASCII digits has no other characters, since digits have no case. -/
theorem inSet_asciiDigits_iff : inSet asciiDigits c = true ↔ c.isDigit = true := by
  have hfold : Text.Ranges.foldTo [(0x30, 0x39)] [(0x30, 0x39)] = true :=
    foldTo_self_of_uncased (by simp)
  have hset : inSet asciiDigits c = true ↔ _ := inSet_ranges_iff hfold
  rw [hset, Char.isDigit_iff_toNat]
  simp [Text.Ranges.has]

/-- The set of white space is white space. -/
theorem inSet_whiteSpace : inSet whiteSpace c = Text.isBlank c := by
  simp [inSet_eq_any, whiteSpace, Member.accepts, Pattern.Category.has]

/-- The set of the underscore and the hyphen. -/
theorem inSet_dashes_iff :
    inSet [.single '_'.toNat, .single '-'.toNat] c = true ↔ c = '_' ∨ c = '-' := by
  have hfold : Text.Ranges.foldTo [(0x2d, 0x2d), (0x5f, 0x5f)] [(0x2d, 0x2d), (0x5f, 0x5f)] = true :=
    foldTo_self_of_uncased (by simp)
  have hset : inSet [.range '-'.toNat '-'.toNat, .range '_'.toNat '_'.toNat] c = true ↔ _ :=
    inSet_ranges_iff hfold
  have hsingles : inSet [.single '_'.toNat, .single '-'.toNat] c =
      inSet [.range '-'.toNat '-'.toNat, .range '_'.toNat '_'.toNat] c := by
    simp only [inSet_eq_any, List.any_cons, List.any_nil, Bool.or_false]
    rw [Member.accepts_single (by decide), Member.accepts_single (by decide), Bool.or_comm]
  rw [hsingles, hset, ← Char.toNat_inj, ← Char.toNat_inj]
  show _ ↔ c.toNat = 0x5f ∨ c.toNat = 0x2d
  grind [Text.Ranges.has]

end

/-! ## Texts made of characters of a class -/

/-- Every field that passes the one check passes the other, whatever their parameters are. -/
def Refines (check check' : Check) : Prop :=
  ∀ {field record param param'}, check field record param = .ok none →
    check' field record param' = .ok none

section
variable {rule rule' field s : String} {record : Record} {param param' : Option String} {p q : Char → Bool}

/-- **A rule on characters** is passed by blank fields, and by the values whose text is made of its
characters and not empty. -/
theorem everyRule_passes_iff : everyRule rule p field record param = .ok none ↔
    (record.value field).isBlank = true ∨
      ∃ s, (record.value field).scalarText = .ok (some s) ∧ s ≠ "" ∧ ∀ c ∈ s.toList, p c = true := by
  cases hblank : (record.value field).isBlank with
  | true =>
    rw [everyRule, ofText, ofTest_of_isBlank hblank]
    simp
  | false =>
    have hmade (s : String) : (!s.toList.isEmpty && s.toList.all p) = true ↔
        s ≠ "" ∧ ∀ c ∈ s.toList, p c = true := by
      simp
    rw [everyRule, ofText, ofTest_passes_iff hblank, bind_pure_eq_map, map_eq_ok_iff]
    simp only [mapError_eq_ok_iff, Option.any_eq_true, hmade]
    constructor
    · rintro ⟨_, htext, s, rfl, hs⟩
      exact .inr ⟨s, htext, hs⟩
    · rintro (h | ⟨s, htext, hs⟩)
      · cases h
      · exact ⟨some s, htext, s, rfl, hs⟩

/-- A text that is not empty passes if it is made of the characters of the rule. -/
theorem everyRule_text_passes_iff (hvalue : record.value field = .text s) (hne : s ≠ "") :
    everyRule rule p field record param = .ok none ↔ ∀ c ∈ s.toList, p c = true := by
  have hpresent : (Value.text s).isBlank = false := by simpa [Value.isBlank, Value.isNull, Value.isEmpty]
  have htext (t : String) : (Value.text s).scalarText = .ok (some t) ↔ s = t := by simp [Value.scalarText]
  rw [everyRule_passes_iff, hvalue, hpresent]
  simp [htext, hne]

/-- A text of characters of the class passes. -/
theorem everyRule_passes_of_all (hvalue : record.value field = .text s) (hne : s ≠ "")
    (hall : s.toList.all p = true) : everyRule rule p field record param = .ok none :=
  (everyRule_text_passes_iff hvalue hne).2 (List.all_eq_true.1 hall)

/-- A rule that admits more characters is passed by more values. -/
theorem everyRule_refines (h : ∀ c, p c = true → q c = true) :
    (everyRule rule p).Refines (everyRule rule' q) := by
  intro field record param param' hpasses
  rw [everyRule_passes_iff] at hpasses ⊢
  refine hpasses.imp_right ?_
  rintro ⟨s, htext, hne, hs⟩
  exact ⟨s, htext, hne, fun c hc => h c (hs c hc)⟩

end

/-! ## Latin letters -/

section
variable {field s : String} {record : Record} {param : Option String}

/-- **The Latin rules** are passed by the texts made of the letters of ASCII and of the Latin-1 supplement,
of the seven characters that are the same letter as one of these in another case, and of what each rule
admits besides. -/
theorem latinRules_exact (hvalue : record.value field = .text s) (hne : s ≠ "") :
    (alpha field record param = .ok none ↔
      ∀ c ∈ s.toList, (Text.isLatin c = true ∨ Text.isLookAlike c = true)) ∧
    (alphaNumeric field record param = .ok none ↔
      ∀ c ∈ s.toList, (Text.isLatin c = true ∨ Text.isLookAlike c = true) ∨ c.isDigit = true) ∧
    (alphaDash field record param = .ok none ↔
      ∀ c ∈ s.toList, (Text.isLatin c = true ∨ Text.isLookAlike c = true) ∨ c = '_' ∨ c = '-') ∧
    (alphaSpace field record param = .ok none ↔
      ∀ c ∈ s.toList, (Text.isLatin c = true ∨ Text.isLookAlike c = true) ∨ Text.isBlank c = true) ∧
    (alphaNumericSpace field record param = .ok none ↔
      ∀ c ∈ s.toList, (Text.isLatin c = true ∨ Text.isLookAlike c = true) ∨ c.isDigit = true ∨
        Text.isBlank c = true) := by
  simp only [alpha, alphaNumeric, alphaDash, alphaSpace, alphaNumericSpace,
    everyRule_text_passes_iff hvalue hne, inSet_append, inSet_latinLetters_iff, inSet_asciiDigits_iff,
    inSet_whiteSpace, inSet_dashes_iff, or_assoc, and_self]

/-- A street with a letter of the supplement, a digit and a space. -/
theorem latinRules_exact_street :
    let record : Record := [("street", .text "Straße 7")]
    alphaNumericSpace "street" record none = .ok none ∧ alphaSpace "street" record none ≠ .ok none := by
  intro record
  have hvalue : record.value "street" = .text "Straße 7" := rfl
  obtain ⟨-, -, -, hspace, hnumeric⟩ := @latinRules_exact "street" _ record none hvalue (by decide)
  have hall : ("Straße 7".toList.all fun c => (Text.isLatin c || Text.isLookAlike c) ||
      (c.isDigit || Text.isBlank c)) = true := by
    decide
  have hdigit : ¬((Text.isLatin '7' = true ∨ Text.isLookAlike '7' = true) ∨ Text.isBlank '7' = true) := by
    decide
  simp only [List.all_eq_true, Bool.or_eq_true] at hall
  exact ⟨hnumeric.2 hall, fun h => hdigit (hspace.1 h '7' (by decide))⟩

/-- The sign of kelvin, which is no letter of ASCII or of the supplement, passes as one. -/
theorem alpha_kelvin :
    let record : Record := [("unit", .text "\u212a")]
    alpha "unit" record none = .ok none ∧ ¬∀ c ∈ "\u212a".toList, Text.isLatin c = true := by
  intro record
  have hvalue : record.value "unit" = .text "\u212a" := rfl
  refine ⟨(everyRule_text_passes_iff hvalue (by decide)).2 fun c hc => ?_, fun hall => ?_⟩
  · obtain rfl : c = '\u212a' := by simpa using hc
    exact inSet_latinLetters_iff.2 (by decide)
  · exact absurd (hall '\u212a' (by decide)) (by decide)

end

/-! ## Names -/

section
variable {c : Char} {field s : String} {record : Record} {param : Option String}

/-- The characters of a name. -/
theorem isNameChar_iff : isNameChar c = true ↔
    Text.isLetter c = true ∨ Text.isOtherNumber c = true ∨ c = ' ' ∨ c = '\'' ∨ c = '-' := by
  have hword : (Text.isAlphanumeric c && !Text.isDecimalDigit c) = true ↔
      Text.isLetter c = true ∨ Text.isOtherNumber c = true := by
    -- No letter is a decimal digit, so all letters are left when the digits are taken away.
    cases hletter : Text.isLetter c with
    | true =>
      have hdigit := Text.isDecimalDigit_of_isLetter hletter
      rw [Text.isLetter] at hletter
      simp [Text.isAlphanumeric, hletter, hdigit]
    | false =>
      rw [Text.isLetter] at hletter
      simp [Text.isAlphanumeric, Text.isOtherNumber, hletter]
  rw [isNameChar, Bool.or_eq_true, Bool.or_eq_true, Bool.or_eq_true, hword, beq_iff_eq, beq_iff_eq,
    beq_iff_eq]
  simp only [or_assoc]

/-- No decimal digit is a character of a name. -/
theorem not_isNameChar_of_isDecimalDigit (h : Text.isDecimalDigit c = true) : isNameChar c = false := by
  have hsigns : ([' ', '\'', '-'].all fun d => !Text.isDecimalDigit d) = true := by decide
  have hne (d : Char) (hd : d ∈ [' ', '\'', '-']) : c ≠ d := by
    rintro rfl
    have hsign := List.all_eq_true.1 hsigns c hd
    rw [h] at hsign
    cases hsign
  simp [isNameChar, h, hne]

/-- **Names** are made of letters of any script, spaces, apostrophes and hyphens, and of numbers that are no
decimal digits: superscripts, fractions and Roman numbers among them. No decimal digit of any script is part
of a name. -/
theorem validName_exact (hvalue : record.value field = .text s) (hne : s ≠ "") :
    (validName field record param = .ok none ↔ ∀ c ∈ s.toList,
      Text.isLetter c = true ∨ Text.isOtherNumber c = true ∨ c = ' ' ∨ c = '\'' ∨ c = '-') ∧
    ((∃ c ∈ s.toList, Text.isDecimalDigit c = true) → validName field record param ≠ .ok none) := by
  have hpasses : validName field record param = .ok none ↔ ∀ c ∈ s.toList, isNameChar c = true :=
    everyRule_text_passes_iff hvalue hne
  constructor
  · rw [hpasses]
    exact forall₂_congr fun _ _ => isNameChar_iff
  · rintro ⟨c, hc, hdigit⟩ h
    have hname := hpasses.1 h c hc
    rw [not_isNameChar_of_isDecimalDigit hdigit] at hname
    cases hname

/-- A name with an apostrophe and a hyphen, and one with a digit. -/
theorem validName_exact_hyphen :
    let record : Record := [("first", .text "R2D2"), ("last", .text "O'Brien-Smith")]
    validName "last" record none = .ok none ∧ validName "first" record none ≠ .ok none := by
  intro record
  have hvalue : record.value "last" = .text "O'Brien-Smith" := rfl
  have hvalue' : record.value "first" = .text "R2D2" := rfl
  obtain ⟨hlast, -⟩ := @validName_exact "last" _ record none hvalue (by decide)
  obtain ⟨-, hfirst⟩ := @validName_exact "first" _ record none hvalue' (by decide)
  have hall : ("O'Brien-Smith".toList.all fun c => Text.isLetter c || (Text.isOtherNumber c ||
      (decide (c = ' ') || (decide (c = '\'') || decide (c = '-'))))) = true := by
    decide
  simp only [List.all_eq_true, Bool.or_eq_true, decide_eq_true_eq] at hall
  exact ⟨hlast.2 hall, hfirst ⟨'2', by decide, by decide⟩⟩

/-- A name with a Roman number in it, which is no letter, passes. -/
theorem validName_roman :
    let record : Record := [("name", .text "Henry \u2167")]
    validName "name" record none = .ok none ∧
      ¬∀ c ∈ "Henry \u2167".toList, Text.isLetter c = true ∨ c = ' ' ∨ c = '\'' ∨ c = '-' := by
  intro record
  have hvalue : record.value "name" = .text "Henry \u2167" := rfl
  refine ⟨everyRule_passes_of_all hvalue (by decide) (by decide +kernel), fun hall => ?_⟩
  exact absurd (hall '\u2167' (by decide)) (by decide +kernel)

end

/-! ## The order of the rules -/

/-- **Character rules by what they admit**: what passes the narrower rule passes the wider one, whatever the
value is. -/
theorem characterRules_ordered :
    (alpha.Refines alphaNumeric ∧ alpha.Refines alphaDash ∧ alpha.Refines alphaSpace ∧
      alpha.Refines validName) ∧
    (alphaNumeric.Refines alphaNumericSpace ∧ alphaSpace.Refines alphaNumericSpace) ∧
    (validPersianDigit.Refines validPersianText ∧ validPersianName.Refines validPersianText ∧
      validPersianText.Refines validPashtuText ∧ validPersianName.Refines validEngPerPasName) := by
  have hpersian (c : Char) (h : (isPersianWordChar c || c == ' ') = true) :
      isPersianWordChar c = true ∨ Text.isBlank c = true := by
    rw [Bool.or_eq_true, beq_iff_eq] at h
    refine h.imp_right ?_
    rintro rfl
    decide
  refine ⟨⟨?digits, ?dashes, ?spaces, ?names⟩, ⟨?digitsAndSpaces, ?spacesAndDigits⟩, ?persianDigits,
    ?persianNames, ?persianTexts, ?mixedNames⟩
  case digits | dashes | spaces | digitsAndSpaces =>
    exact everyRule_refines fun _ => inSet_of_subset (List.subset_append_left _ _)
  case spacesAndDigits =>
    refine everyRule_refines fun _ => inSet_of_subset (List.append_subset.2 ⟨?_, ?_⟩)
    · exact List.Subset.trans (List.subset_append_left _ _) (List.subset_append_left _ _)
    · exact List.subset_append_right _ _
  case names =>
    -- What ignoring case adds to the Latin letters are letters too.
    refine everyRule_refines fun _ h => isNameChar_iff.2 (.inl ?_)
    exact Text.isLetter_of_isLatin (inSet_latinLetters_iff.1 h)
  case persianDigits =>
    refine everyRule_refines fun _ h => ?_
    simp [isPersianTextChar, h]
  case persianNames =>
    refine everyRule_refines fun c h => ?_
    rcases hpersian c h with h | h <;> simp [isPersianTextChar, h]
  case persianTexts =>
    refine everyRule_refines fun _ h => ?_
    simp [h]
  case mixedNames =>
    refine everyRule_refines fun c h => ?_
    rcases hpersian c h with h | h <;> simp [h]

/-- A name in Latin letters, and one in Persian letters with a joiner in it. -/
theorem characterRules_ordered_names :
    let record : Record := [("given", .text "Zoë"), ("family", .text "علی\u200cزاده")]
    (alpha "given" record none = .ok none ∧ validName "given" record none = .ok none) ∧
      validPersianName "family" record none = .ok none ∧
      validPersianText "family" record none = .ok none ∧
      validEngPerPasName "family" record none = .ok none := by
  intro record
  have hvalue : record.value "given" = .text "Zoë" := rfl
  have hvalue' : record.value "family" = .text "علی\u200cزاده" := rfl
  have hletters : ("Zoë".toList.all fun c => Text.isLatin c || Text.isLookAlike c) = true := by decide
  simp only [List.all_eq_true, Bool.or_eq_true] at hletters
  have hgiven : alpha "given" record none = .ok none :=
    (everyRule_text_passes_iff hvalue (by decide)).2 fun c hc => inSet_latinLetters_iff.2 (hletters c hc)
  have hfamily : validPersianName "family" record none = .ok none :=
    everyRule_passes_of_all hvalue' (by decide) (by decide)
  obtain ⟨⟨-, -, -, hname⟩, -, -, htext, -, hmixed⟩ := characterRules_ordered
  exact ⟨⟨hgiven, hname hgiven⟩, hfamily, htext hfamily, hmixed hfamily⟩

end Check

end RecordRules
