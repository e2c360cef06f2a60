import RecordRules.Host.Standard
import RecordRules.Proofs.Builtin.Independence
import RecordRules.Proofs.Check.Passing
import RecordRules.Proofs.Json.Integer
import RecordRules.Proofs.Text.Split

/-!
# Integers and their texts

A value that is an integer in one source of records is the text of the integer in another. The rules
of the library take both for the same (`Builtin.outline_check_integerText`): they read numbers
from texts, compare texts of numbers, or ask for a format that no integer has. The exceptions are
the rules on dates, where digits can be a date while a number is none, and the rule that compares
two fields, which tells a number from its text. Of the package that decides about addresses of
electronic mail it takes no more than that a text without an at sign is none (`Host.WantsAtSign`).
-/

namespace RecordRules

variable {s : List Char} {n : Int}

/-! ## Formats that need a delimiter -/

/-- The package for addresses refuses texts without an at sign, and does not give up on them. -/
def Host.WantsAtSign (host : Host) : Prop := ∀ s : String, '@' ∉ s.toList → host.isEmail s = .ok false

/-- The standard host wants an at sign. -/
theorem Host.standard_wantsAtSign (today : Date) : (standard today).WantsAtSign := by
  intro s h
  simp only [standard, Net.Email.isAddress, Text.dropWhile_ne_eq_nil_iff.2 h]

/-- A text is not split at what it does not hold. -/
theorem Net.Url.splitFirst?_of_not_mem {d : Char} (h : d ∉ s) : splitFirst? d s = none := by
  simp only [splitFirst?, Text.dropWhile_ne_eq_nil_iff.2 h]

/-- An address has a colon after its scheme. -/
theorem Net.Url.isAbsolute_of_not_mem (h : ':' ∉ s) : isAbsolute s = false := by
  have hrest : ':' ∉ s.dropWhile (·.toNat ≤ 0x20) := fun hc =>
    h ((List.dropWhile_suffix _).subset hc)
  simp only [isAbsolute, splitScheme?, splitFirst?_of_not_mem hrest, ite_self]

/-- The four numbers are separated by points. -/
theorem Net.isIpv4_of_not_mem (h : '.' ∉ s) : isIpv4 s = false := by
  simp [isIpv4, Text.splitAll_of_not_mem h]

/-- The groups are separated by colons. -/
theorem Net.isIpv6_of_not_mem (hzone : '%' ∉ s) (hcolon : ':' ∉ s) : isIpv6 s = false := by
  simp [isIpv6, withoutZone?, groups?, Text.splitAll_of_not_mem hzone,
    Text.splitAll_of_not_mem hcolon]

/-- Five groups have four hyphens between them. -/
theorem Check.count_of_isHexGroups (h : isHexGroups s = true) : s.count '-' = 4 := by
  rw [isHexGroups, Bool.and_eq_true, beq_iff_eq] at h
  have hlength := congrArg List.length h.1
  rw [List.length_map, Text.length_splitAll] at hlength
  exact Nat.succ.inj hlength

/-- A text without a brace is not between braces. -/
theorem Check.insideBraces?_of_not_mem (h : '\x7b' ∉ s) : insideBraces? s = none := by
  unfold insideBraces?
  split
  · exact absurd List.mem_cons_self h
  · rfl

/-- An account number starts with a capital. -/
theorem Check.isIban_of_head (h : ∀ c ∈ s.head?, isCapital c = false) : isIban s = .ok false := by
  have hnone : ∀ fuel, ibanShape fuel s = [] := by
    intro fuel
    cases s with
    | nil => rfl
    | cons c rest =>
      simp [ibanShape, Text.Shape.all, Text.Shape.andThen, Text.Shape.times, Text.Shape.one,
        h c rfl]
  simp [isIban, Text.Shape.fits, hnone]

/-- The extension of a name without slashes comes after a point. -/
theorem Upload.extensionOf_of_not_mem (hslash : '/' ∉ s) (hpoint : '.' ∉ s) :
    extensionOf s = none := by
  simp [extensionOf, afterLast?, hslash, hpoint]

/-! ## Formats that no integer has -/

/-- Where addresses have an at sign, the text of an integer is none. -/
theorem Host.WantsAtSign.isEmail_integerText {host : Host} (h : host.WantsAtSign) (n : Int) :
    host.isEmail (Number.integerText n) = .ok false :=
  h _ (Number.not_mem_integerText (by decide) (by decide))

/-- An integer that is written out is no address of a page. -/
theorem Net.Url.isAbsolute_integerText (n : Int) :
    isAbsolute (Number.integerText n).toList = false :=
  isAbsolute_of_not_mem (Number.not_mem_integerText (by decide) (by decide))

/-- Nor is it an address with points. -/
theorem Net.isIpv4_integerText (n : Int) : isIpv4 (Number.integerText n).toList = false :=
  isIpv4_of_not_mem (Number.not_mem_integerText (by decide) (by decide))

/-- Nor one with colons. -/
theorem Net.isIpv6_integerText (n : Int) : isIpv6 (Number.integerText n).toList = false :=
  isIpv6_of_not_mem (Number.not_mem_integerText (by decide) (by decide))
    (Number.not_mem_integerText (by decide) (by decide))

/-- So it is no address of either form. -/
theorem Net.isIp_integerText (n : Int) :
    (isIpv4 (Number.integerText n).toList || isIpv6 (Number.integerText n).toList) = false := by
  rw [isIpv4_integerText, isIpv6_integerText, Bool.or_self]

/-- An integer is written with one minus at most. -/
theorem Number.count_minus_integerText (n : Int) : (integerText n).toList.count '-' ≤ 1 := by
  have hdigits : (written n.natAbs).count '-' = 0 :=
    List.count_eq_zero.2 fun h => by simpa using isDigit_of_mem_written h
  rw [toList_integerText]
  split <;> simp [hdigits]

/-- Four hyphens make an identifier, one at most an integer. -/
theorem Check.isGuid_integerText (n : Int) : isGuid (Number.integerText n).toList = false := by
  have hbrace : '\x7b' ∉ (Number.integerText n).toList :=
    Number.not_mem_integerText (by decide) (by decide)
  rw [isGuid, insideBraces?_of_not_mem hbrace, Option.getD_none, Bool.eq_false_iff]
  intro h
  have hfour := count_of_isHexGroups h
  have hone := Number.count_minus_integerText n
  omega

/-- An account number begins with a letter. -/
theorem Check.isIban_integerText (n : Int) :
    isIban (Number.integerText n).toList = .ok false := by
  refine isIban_of_head fun c hc => ?_
  rcases Number.of_mem_integerText (List.mem_of_mem_head? hc) with rfl | hdigit
  · rfl
  · have hrange : 48 ≤ c.toNat ∧ c.toNat ≤ 57 := Char.isDigit_iff_toNat.1 hdigit
    refine Bool.eq_false_iff.2 fun hupper => ?_
    have hletter : 'A'.val ≤ c.val ∧ c.val ≤ 'Z'.val := of_decide_eq_true hupper
    have hcode : 65 ≤ c.toNat := UInt32.le_iff_toNat_le.1 hletter.1
    omega

/-- The texts of 0 and 1 are the only truth values among the texts of integers. -/
theorem Check.isBoolean_integerText (n : Int) :
    isBoolean (.text (Number.integerText n)) = isBoolean (.int n) := by
  have hwords : ∀ w ∈ ["true", "false", "yes", "no", "on", "off"],
      w.toList.any (fun c => c != '-' && !c.isDigit) = true := by decide
  have hletter : ∀ w ∈ ["true", "false", "yes", "no", "on", "off"], Number.integerText n ≠ w := by
    rintro w hw rfl
    obtain ⟨c, hc, hletter⟩ := List.any_eq_true.1 (hwords _ hw)
    obtain ⟨hsign, hdigit⟩ : c ≠ '-' ∧ c.isDigit = false := by simpa using hletter
    exact Number.not_mem_integerText hsign hdigit hc
  have hzero : Number.integerText n = "0" ↔ n = 0 :=
    ⟨fun h => Number.integerText_injective (n := 0) h, fun h => h ▸ rfl⟩
  have hone : Number.integerText n = "1" ↔ n = 1 :=
    ⟨fun h => Number.integerText_injective (n := 1) h, fun h => h ▸ rfl⟩
  simp only [List.forall_mem_cons] at hletter
  rw [isBoolean, isBoolean, Bool.eq_iff_iff]
  simp [booleanWords, hzero, hone, hletter, or_comm]

/-- The text of an integer is a JSON text, but no object. -/
theorem Check.isJsonObject_integerText {depthLimit : Nat}
    (h : Number.digitCount n.natAbs ≤ Number.digitLimit) :
    isJsonObject depthLimit (Number.integerText n).toList = .ok false := by
  rw [isJsonObject, Json.read_integerText h]

/-! ## Checks -/

/-- A check ends in the same way, but for the value in a failure, whether the field holds an integer
that can be written or its text. -/
def Check.ReadsAlike (check : Check) : Prop :=
  ∀ ⦃field : String⦄ ⦃record record' : Record⦄ ⦃param : Option String⦄ ⦃n : Int⦄,
    Number.digitCount n.natAbs ≤ Number.digitLimit →
    record.value field = .int n → record'.value field = .text (Number.integerText n) →
    (check field record param).map (Option.map Failure.outline) =
      (check field record' param).map (Option.map Failure.outline)

/-- An integer that can be written is written as the text of its digits is. -/
theorem Value.scalarText_int (h : Number.digitCount n.natAbs ≤ Number.digitLimit) :
    (int n).scalarText = (text (Number.integerText n)).scalarText := by
  simp [scalarText, shownInt, Number.integerText?, h, Except.map]

/-- The text of an integer is not blank. -/
theorem Value.isBlank_integerText (n : Int) : (text (Number.integerText n)).isBlank = false :=
  isBlank_text (Number.integerText_ne_nil n)

namespace Check

section
variable {rule : String}

/-- Neither an integer nor its text is blank, so both are inspected. -/
theorem ReadsAlike.optional {inspect : Value → Record → Option String → Except Cause Finding}
    (h : ∀ n, Number.digitCount n.natAbs ≤ Number.digitLimit → ∀ record record' param,
      inspect (.int n) record param = inspect (.text (Number.integerText n)) record' param) :
    ReadsAlike (Check.optional rule inspect) := by
  intro field record record' param n hn hvalue hvalue'
  have hblank : (Value.int n).isBlank = false := rfl
  simp only [Check.optional, hvalue, hvalue', hblank, Value.isBlank_integerText,
    Bool.false_eq_true, if_false, h n hn record record' param]
  cases inspect (.text (Number.integerText n)) record' param with
  | error cause => rfl
  | ok finding => cases finding <;> rfl

/-- A rule made of a test reads an integer as its text if the test does. -/
theorem ReadsAlike.ofTest {holds : Value → Option String → Except Cause Bool}
    (h : ∀ n, Number.digitCount n.natAbs ≤ Number.digitLimit → ∀ param,
      holds (.int n) param = holds (.text (Number.integerText n)) param) :
    ReadsAlike (Check.ofTest rule holds) :=
  .optional fun n hn record record' param => by rw [h n hn param]

/-- A rule on the text of scalar values. -/
theorem ReadsAlike.ofText {holds : List Char → Bool} : ReadsAlike (Check.ofText rule holds) :=
  .ofTest fun n hn param => by rw [Value.scalarText_int hn]

/-- Rules about every character see the characters only. -/
theorem ReadsAlike.everyRule {p : Char → Bool} : ReadsAlike (Check.everyRule rule p) := .ofText

/-- A rule that only texts can satisfy, but not the text of an integer. -/
theorem ReadsAlike.ofString {holds : List Char → Bool}
    (h : ∀ n, holds (Number.integerText n).toList = false) :
    ReadsAlike (Check.ofString rule holds) :=
  .ofTest fun n hn param => by simp only [h]

/-- Rules about a length see the characters only. -/
theorem ReadsAlike.lengthRule {compare : Int → Int → Bool} :
    ReadsAlike (Check.lengthRule rule compare) :=
  .ofTest fun n hn param => by rw [Value.scalarText_int hn]

/-- Rules about a number read the same number from both. -/
theorem ReadsAlike.numericRule {compare : Decimal → Decimal → Bool} :
    ReadsAlike (Check.numericRule rule compare) :=
  .ofTest fun n hn param => by rw [Value.toDecimal?_integerText hn]

/-- Neither an integer nor a text has items. -/
theorem ReadsAlike.sizeRule {compare : Int → Int → Bool} :
    ReadsAlike (Check.sizeRule rule compare) :=
  .ofTest fun _ _ _ => rfl

end

/-- Lowering and trimming see the characters only. -/
theorem normalizedText_int (h : Number.digitCount n.natAbs ≤ Number.digitLimit) :
    normalizedText (.int n) = normalizedText (.text (Number.integerText n)) := by
  rw [normalizedText, normalizedText, Value.scalarText_int h]

/-- Neither an integer nor its text is blank. -/
theorem required_readsAlike : ReadsAlike required := by
  intro field record record' param n hn hvalue hvalue'
  have hblank : (Value.int n).isBlank = false := rfl
  rw [required, required, hvalue, hvalue', hblank, Value.isBlank_integerText]

/-- Neither an integer nor a text is an upload, however uploads are made. -/
theorem requiredFile_readsAlike {make? : List (Value × Value) → Option Upload} :
    ReadsAlike (requiredFile make?) := by
  intro field record record' param n hn hvalue hvalue'
  simp only [requiredFile, hvalue, hvalue']
  rfl

/-- The text of an integer names a file without an extension. -/
theorem extension_readsAlike {make? : List (Value × Value) → Option Upload} :
    ReadsAlike (extension make?) := by
  refine .optional fun n hn record record' param => ?_
  have hnone : Upload.extensionOf (Number.integerText n).toList = none :=
    Upload.extensionOf_of_not_mem (Number.not_mem_integerText (by decide) (by decide))
      (Number.not_mem_integerText (by decide) (by decide))
  cases param with
  | none => rfl
  | some p =>
    simp [Parameter.required, Upload.named?, Upload.ofValue?, Upload.hasFile, Upload.noFile,
      Upload.extension, hnone, bind, Except.bind]

end Check

/-! ## The rules of the library -/

/-- The rules that tell integers from their texts: those on dates, and the comparison of fields. -/
def Builtin.tellsIntegers : List String := ["date", "min_age", "equalsfield"]

/-- Every other rule of the library takes an integer and its text for the same. -/
theorem Builtin.readsAlike_of_mem {host : Host} (hhost : host.WantsAtSign) :
    ∀ entry ∈ checks host, entry.1 ∉ tellsIntegers → entry.2.ReadsAlike := by
  simp only [checks, List.forall_mem_cons]
  exact ⟨fun _ => Check.required_readsAlike,
    fun _ => Check.requiredFile_readsAlike,
    fun _ => .optional fun _ hn _ _ _ => by rw [Check.normalizedText_int hn],
    fun _ => .optional fun _ hn _ _ _ => by rw [Check.normalizedText_int hn],
    fun _ => .optional fun _ hn _ _ _ => by rw [Check.normalizedText_int hn],
    fun _ => .ofTest fun n _ _ => by rw [Check.isBoolean_integerText n],
    fun _ => .ofTest fun _ hn _ => by rw [Value.scalarText_int hn],
    fun _ => .lengthRule,
    fun _ => .lengthRule,
    fun _ => .lengthRule,
    fun _ => .numericRule,
    fun _ => .numericRule,
    fun _ => .sizeRule,
    fun _ => .sizeRule,
    fun _ => .sizeRule,
    fun _ => .everyRule,
    fun _ => .everyRule,
    fun _ => .everyRule,
    fun _ => .everyRule,
    fun _ => .everyRule,
    fun _ => .everyRule,
    fun _ => .ofTest fun _ hn _ => by rw [Value.scalarText_int hn],
    fun _ => .everyRule,
    fun _ => .everyRule,
    fun _ => .everyRule,
    fun _ => .everyRule,
    fun _ => .everyRule,
    fun _ => .ofTest fun _ hn _ => by rw [Value.toDecimal?_integerText hn],
    fun _ => .ofTest fun _ hn _ => (Check.isInteger64Text_integerText hn).symm,
    fun _ => .ofTest fun _ hn _ => by rw [Value.toDecimal?_integerText hn],
    fun _ => .ofTest fun n _ _ => (hhost.isEmail_integerText n).symm,
    fun _ => .ofString Net.Url.isAbsolute_integerText,
    fun _ => .ofString Net.isIp_integerText,
    fun _ => .ofString Net.isIpv4_integerText,
    fun _ => .ofString Net.isIpv6_integerText,
    fun _ => .ofString Check.isGuid_integerText,
    fun _ => .ofTest fun _ hn _ => (Check.isJsonObject_integerText hn).symm,
    fun _ => .ofText,
    fun _ => .ofTest fun _ hn _ => by rw [Value.scalarText_int hn],
    absurd (by decide),
    absurd (by decide),
    fun _ => .ofText,
    fun _ => .ofTest fun n _ _ => (Check.isIban_integerText n).symm,
    absurd (by decide),
    fun _ => Check.extension_readsAlike,
    by simp⟩

/-- **Integers and their texts are checked alike**: both are in order, both fail with the same
parameter, or the rule gives up on both for the same cause. -/
theorem Builtin.outline_check_integerText {host : Host} {name field : String} {check : Check}
    {record record' : Record} {param : Option String} (hhost : host.WantsAtSign)
    (hcheck : check? host name = some check) (hname : name ∉ tellsIntegers)
    (hn : Number.digitCount n.natAbs ≤ Number.digitLimit)
    (hvalue : record.value field = .int n)
    (hvalue' : record'.value field = .text (Number.integerText n)) :
    (check field record param).map (Option.map Failure.outline) =
      (check field record' param).map (Option.map Failure.outline) := by
  obtain ⟨before, after, hchecks, -⟩ := List.lookup_eq_some_iff.1 hcheck
  exact readsAlike_of_mem hhost (name, check) (by rw [hchecks]; simp) hname hn hvalue hvalue'

/-- The minus sign counts as a character of the number, which is no address. -/
theorem Builtin.outline_check_integerText_sign :
    let host : Host := .standard ⟨2026, 6, 15, rfl⟩
    let record : Record := [("size", .int (-120))]
    let record' : Record := [("size", .text "-120")]
    host.WantsAtSign ∧ Number.digitCount (-120 : Int).natAbs ≤ Number.digitLimit ∧
      record.value "size" = .int (-120) ∧ record'.value "size" = .text (Number.integerText (-120)) ∧
      (∃ check, check? host "max_len" = some check ∧
        (check "size" record (some "3")).map (Option.map Failure.outline) =
          (check "size" record' (some "3")).map (Option.map Failure.outline) ∧
        (check "size" record' (some "3")).map (Option.map Failure.outline) =
          .ok (some ("size", "max_len", .text "3"))) ∧
      ∃ check, check? host "valid_email" = some check ∧
        (check "size" record none).map (Option.map Failure.outline) =
          (check "size" record' none).map (Option.map Failure.outline) := by
  intro host record record'
  have hhost : host.WantsAtSign := Host.standard_wantsAtSign _
  have hlength : check? host "max_len" = some Check.maxLen := rfl
  have hemail : check? host "valid_email" = some (Check.validEmail host.isEmail) := rfl
  have hn : Number.digitCount (-120 : Int).natAbs ≤ Number.digitLimit := by decide
  refine ⟨hhost, hn, rfl, rfl, ⟨_, hlength, ?_, rfl⟩, _, hemail, ?_⟩
  · exact outline_check_integerText hhost hlength (by decide) hn rfl rfl
  · exact outline_check_integerText hhost hemail (by decide) hn rfl rfl

end RecordRules
