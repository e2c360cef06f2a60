import RecordRules.Proofs.Builtin.Contract

/-!
# Every rule of the library is of a kind

A rule that asks about its own value only is of the third kind as soon as it is known when its
question has no answer (`Builtin.Kind.ofAnswer`). The sections below say so for one family of rules
after the other: rules on any value, on texts, on lists of words, on lengths and sizes, and the few
that stand alone. `Builtin.kind_of_mem` is the list of the rules with the reason for each.
-/

namespace RecordRules

/-! ## Where an answer can fail -/

/-- Writing a value out raises for the values that cannot be written, and for no others. -/
theorem Value.raises_scalarText {v : Value} : Raises v.scalarText ↔ v.isUnwritable = true := by
  cases v with
  | int n =>
    by_cases h : Number.digitCount n.natAbs ≤ Number.digitLimit
    · simp [scalarText, shownInt, Number.integerText?, isUnwritable, h, Except.map]
    · simp [scalarText, shownInt, Number.integerText?, isUnwritable, h, Except.map]
      omega
  | _ => simp [scalarText, isUnwritable]

/-- Asking for a parameter raises exactly when the demand for one is not met. -/
theorem Parameter.raises_required {rule : String} {param : Option String} (host : Host) :
    Raises (Parameter.required rule param) ↔ Builtin.Demand.text.isMet host param = false := by
  cases param <;> simp [required, Builtin.Demand.isMet]

/-- Asking for an integer raises exactly when the demand for an integer is not met. -/
theorem Parameter.raises_integer {rule : String} {param : Option String} (host : Host) :
    Raises (Parameter.integer rule param) ↔ Builtin.Demand.integer.isMet host param = false := by
  cases param with
  | none => simp [integer, required, Builtin.Demand.isMet, bind, Except.bind]
  | some p =>
    cases h : Number.readInteger? p.toList <;>
      simp [integer, required, Builtin.Demand.isMet, bind, Except.bind, h]

/-- A decision on the text of a value. -/
theorem Value.raises_onText {v : Value} {decide : Option String → Bool} :
    Raises (do return decide (← v.scalarText.mapError Cause.tooLong)) ↔ v.isUnwritable = true := by
  rw [raises_bind_pure, raises_mapError, raises_scalarText]

/-- Lowering and trimming add no fault to that of writing a value out. -/
theorem Check.raises_normalizedText {v : Value} :
    Raises (Check.normalizedText v) ↔ v.isUnwritable = true := by
  rw [normalizedText, raises_bind_pure, raises_mapError, Value.raises_scalarText]

/-! ## Answers -/

/-- A check that inspects a value is one that asks, when the inspection gives the answer and the
parameter to show. -/
theorem Check.optional_eq_asking {rule : String}
    (inspect : String → Record → Value → Record → Option String → Except Cause Finding)
    {shown : Option String → Value} {holds : String → Record → Option String → Except Cause Bool}
    (h : ∀ field record param, inspect field record (record.value field) record param =
      (holds field record param).map fun ok => if ok then .pass else .fail (shown param)) :
    (fun field record param => Check.optional rule (inspect field record) field record param) =
      Check.asking rule shown holds := by
  funext field record param
  simp only [optional, asking, h]
  split
  · rfl
  · cases holds field record param with
    | error e => rfl
    | ok ok => cases ok <;> rfl

/-- A rule that shows its parameter as it was given asks about the value of its field. -/
theorem Check.ofTest_eq_asking {rule : String} {holds : Value → Option String → Except Cause Bool} :
    Check.ofTest rule holds = Check.asking rule paramValue fun field record param =>
      holds (record.value field) param :=
  optional_eq_asking _ fun _ _ _ => bind_pure_eq_map

/-- The check of a rule that compares the text of a value with a list read from the parameter. -/
def Check.ofWords (rule : String) (read : String → List String)
    (holds : List String → String → Bool) : Check :=
  Check.optional rule fun v _ param => do
    let words := read (← Parameter.required rule param)
    return if (← normalizedText v).any (holds words) then .pass else .fail (listParam words)

/-- The list that is read from the parameter, to be shown. -/
def Check.shownWords (read : String → List String) (param : Option String) : Value :=
  (param.map fun p => listParam (read p)).getD .null

/-- The rules that compare with words ask for their parameter first and report the words. -/
theorem Check.ofWords_eq_asking {rule : String} {read : String → List String}
    {holds : List String → String → Bool} :
    Check.ofWords rule read holds = Check.asking rule (shownWords read) fun field record param => do
      let words := read (← Parameter.required rule param)
      return (← normalizedText (record.value field)).any (holds words) := by
  refine optional_eq_asking _ fun field record param => ?_
  cases param with
  | none => rfl
  | some p =>
    cases normalizedText (record.value field) <;>
      simp [Parameter.required, bind, Except.bind, pure, Except.pure, Except.map, shownWords]

namespace Builtin

/-- When the question about a value alone has no answer on a host. -/
def Answers (host : Host) (demand : Demand) (limit : Limit)
    (ask : Value → Option String → Except Cause Bool) : Prop :=
  ∀ v param, Raises (ask v param) ↔
    demand.isMet host param = false ∨ limit.isPassed host v param = true

section
variable {host : Host} {name : String} {check : Check} {ask : Value → Option String → Except Cause Bool}

/-- A rule that asks about the value of its field alone. -/
theorem Kind.ofAnswer (d : Demand) (l : Limit) (hname : isSimple name = true)
    (hdemand : demand name = d) (hlimit : limit name = l) (hask : Answers host d l ask)
    (hcheck : check = Check.asking name (shown name) fun field record param =>
      ask (record.value field) param) : Kind host name check := by
  obtain ⟨hoptional, hpartner⟩ : wantsPresence name = false ∧ name ≠ "equalsfield" := by
    simpa [isSimple] using hname
  refine .optional hoptional hcheck ⟨fun _ h _ => by rw [h], fun _ => ?_⟩
  rw [hask, isBeyond_eq_isPassed hpartner, hdemand, hlimit]

/-! ## Rules that show their parameter as it was given -/

/-- A rule made of a test is of the kind that the test's parameter and faults are of. -/
theorem Kind.ofTest (d : Demand) (l : Limit) (hname : isSimple name = true)
    (hshown : shown name = paramValue) (hdemand : demand name = d) (hlimit : limit name = l)
    (hask : Answers host d l ask) : Kind host name (Check.ofTest name ask) := by
  refine .ofAnswer _ _ hname hdemand hlimit hask ?_
  rw [hshown, Check.ofTest_eq_asking]

/-- A rule on any value whose question always has an answer. -/
theorem Kind.ofDecision {decision : Value → Option String → Bool} (hname : isSimple name = true)
    (hshown : shown name = paramValue) (hdemand : demand name = .nothing)
    (hlimit : limit name = .nothing) :
    Kind host name (Check.ofTest name fun v param => .ok (decision v param)) :=
  .ofTest _ _ hname hshown hdemand hlimit fun v param => by simp

/-- Rules about a number read a value as far as it can be read, and so never raise. -/
theorem Kind.numericRule {compare : Decimal → Decimal → Bool} (hname : isSimple name = true)
    (hshown : shown name = paramValue) (hdemand : demand name = .nothing)
    (hlimit : limit name = .nothing) : Kind host name (Check.numericRule name compare) := by
  refine .ofTest _ _ hname hshown hdemand hlimit fun v param => ?_
  cases v.toDecimal? <;> cases (paramValue param).toDecimal? <;> simp

/-- A rule that only texts can satisfy. -/
theorem Kind.ofString {holds : List Char → Bool} (hname : isSimple name = true)
    (hshown : shown name = paramValue) (hdemand : demand name = .nothing)
    (hlimit : limit name = .nothing) : Kind host name (Check.ofString name holds) := by
  refine .ofTest _ _ hname hshown hdemand hlimit fun v param => ?_
  cases v <;> simp

/-- A rule on the text of a scalar value. -/
theorem Kind.ofText {holds : List Char → Bool} (hname : isSimple name = true)
    (hshown : shown name = paramValue) (hdemand : demand name = .nothing)
    (hlimit : limit name = .text) : Kind host name (Check.ofText name holds) := by
  refine .ofTest _ _ hname hshown hdemand hlimit fun v param => ?_
  rw [Value.raises_onText]
  simp

/-- Rules about every character raise only where a value cannot be written. -/
theorem Kind.everyRule {p : Char → Bool} (hname : isSimple name = true)
    (hshown : shown name = paramValue) (hdemand : demand name = .nothing)
    (hlimit : limit name = .text) : Kind host name (Check.everyRule name p) :=
  .ofText hname hshown hdemand hlimit

/-- An address is asked for letters and for digits. -/
theorem Kind.streetAddress : Kind host "street_address" Check.streetAddress := by
  refine .ofTest .nothing .text rfl rfl rfl rfl fun v param => ?_
  rw [raises_bind_pure, raises_mapError, Value.raises_scalarText]
  simp

/-! ## Rules with an integer parameter -/

/-- Rules about a length read their integer before they write the value. -/
theorem Kind.lengthRule {compare : Int → Int → Bool} (hname : isSimple name = true)
    (hshown : shown name = paramValue) (hdemand : demand name = .integer)
    (hlimit : limit name = .text) : Kind host name (Check.lengthRule name compare) := by
  refine .ofTest _ _ hname hshown hdemand hlimit fun v param => ?_
  rw [raises_bind_iff (fun _ => Value.raises_onText), Parameter.raises_integer host]
  rfl

/-- Rules about a size read their integer and never write the value. -/
theorem Kind.sizeRule {compare : Int → Int → Bool} (hname : isSimple name = true)
    (hshown : shown name = paramValue) (hdemand : demand name = .integer)
    (hlimit : limit name = .nothing) : Kind host name (Check.sizeRule name compare) := by
  refine .ofTest _ _ hname hshown hdemand hlimit fun v param => ?_
  rw [raises_bind_pure, Parameter.raises_integer host]
  simp

/-- An age is an integer, and a date of birth is read from the value. -/
theorem Kind.minAge : Kind host "min_age" (Check.minAge host.today) := by
  refine .ofTest .integer .nothing rfl rfl rfl rfl fun v param => ?_
  rw [raises_bind_pure, Parameter.raises_integer host]
  simp

/-! ## Rules with a text as parameter -/

/-- The words of `starts` are compared with the value as it is lowered and trimmed. -/
theorem Kind.starts : Kind host "starts" Check.starts := by
  refine .ofTest .text .text rfl rfl rfl rfl fun v param => ?_
  rw [raises_bind_iff (fun _ => Value.raises_onText), Parameter.raises_required host]
  rfl

/-- A rule that compares the text of a value with a list read from the parameter. -/
theorem Kind.ofWords (read : String → List String) (holds : List String → String → Bool)
    (hname : isSimple name = true) (hshown : shown name = Check.shownWords read)
    (hdemand : demand name = .text) (hlimit : limit name = .text) :
    Kind host name (Check.ofWords name read holds) := by
  have hask : Answers host .text .text fun v param => (do
      let words := read (← Parameter.required name param)
      return (← Check.normalizedText v).any (holds words)) := by
    intro v param
    rw [raises_bind_iff (fun _ => raises_bind_pure.trans Check.raises_normalizedText),
      Parameter.raises_required host]
    rfl
  refine .ofAnswer _ _ hname hdemand hlimit hask ?_
  rw [hshown, Check.ofWords_eq_asking]

/-- An extension is compared with the words whatever the value is coerced to. -/
theorem Kind.extension : Kind host "extension" (Check.extension host.upload?) := by
  have hask : Answers host .text .nothing fun v param => (do
      let allowed := Parameter.items (← Parameter.required "extension" param)
      return (Upload.named? host.upload? v).any fun u => !u.hasFile || u.extension.any allowed.contains) := by
    intro v param
    rw [raises_bind_pure, Parameter.raises_required host]
    simp
  refine .ofAnswer _ _ rfl rfl rfl hask (Check.optional_eq_asking _ fun field record param => ?_)
  cases param with
  | none => rfl
  | some p =>
    cases h : Upload.named? host.upload? (record.value field) with
    | none => rfl
    | some u =>
      have hshown : shown "extension" (some p) = Check.listParam (Parameter.items p) := rfl
      cases hfile : u.hasFile <;> cases hallowed : u.extension.any (Parameter.items p).contains <;>
        simp [Parameter.required, bind, Except.bind, pure, Except.pure, Except.map, hfile, hallowed,
          hshown, Check.listParam]

/-- An expression is compiled before the value is written. -/
theorem Kind.regex : Kind host "regex" (Check.regex host.patterns) := by
  refine .ofTest .pattern .text rfl rfl rfl rfl fun v param => ?_
  cases param with
  | none => simp [Parameter.required, bind, Except.bind, Demand.isMet]
  | some p =>
    simp only [Parameter.required, bind, Except.bind]
    cases h : Pattern.ofParam p.toList host.patterns with
    | error fault => simp [Demand.isMet, h, Except.isOk, Except.toBool]
    | ok tree =>
      have hmet : Demand.pattern.isMet host (some p) = true := by
        simp [Demand.isMet, h, Except.isOk, Except.toBool]
      refine Value.raises_onText.trans ?_
      simp [hmet]

/-! ## Rules on texts whose readers have limits -/

/-- Reading an integer raises when it has too many digits. -/
theorem raises_isInteger64Text {s : List Char} :
    Raises (Check.isInteger64Text s) ↔ isLongInteger s = true := by
  simp [Check.isInteger64Text, isLongInteger]

/-- The rule for integers can raise on a text of digits. -/
theorem Kind.integer : Kind host "integer" Check.integer := by
  refine .ofTest .nothing .integer rfl rfl rfl rfl fun v param => ?_
  cases v <;> simp [Check.isInteger64, raises_isInteger64Text, Limit.isPassed]

/-- The number of an account is not read when it has too many digits. -/
theorem raises_isIban {s : List Char} : Raises (Check.isIban s) ↔ isLongAccount s = true := by
  simp [Check.isIban, isLongAccount]

/-- The rule on addresses has no answer where the package that decides about them gives up. -/
theorem Kind.validEmail : Kind host "valid_email" (Check.validEmail host.isEmail) := by
  refine .ofTest .nothing .address rfl rfl rfl rfl fun v param => ?_
  cases v <;> simp [isOk_eq_false_iff, Limit.isPassed]

/-- The rule for account numbers can raise on a long account number. -/
theorem Kind.iban : Kind host "iban" Check.iban := by
  refine .ofTest .nothing .account rfl rfl rfl rfl fun v param => ?_
  cases v <;> simp [raises_isIban, Limit.isPassed]

/-- Reading a document raises past the limits on its nesting and on its integers. -/
theorem raises_isJsonObject {depthLimit : Nat} {s : List Char} :
    Raises (Check.isJsonObject depthLimit s) ↔ isBeyondJson depthLimit s = true := by
  rw [Check.isJsonObject, isBeyondJson]
  split <;> simp_all

/-- The rule for documents can raise on a document past the limits. -/
theorem Kind.validJsonString :
    Kind host "valid_json_string" (Check.validJsonString host.jsonDepth) := by
  refine .ofTest .nothing .json rfl rfl rfl rfl fun v param => ?_
  cases v <;> simp [raises_isJsonObject, Limit.isPassed]

end

/-! ## Dates -/

/-- Reading a date raises for the broken formats, whatever the text. -/
theorem raises_isDateIn {format : String} {s : List Char} :
    Raises (Check.isDateIn format s) ↔ isBrokenFormat format = true := by
  rw [Check.isDateIn, isBrokenFormat]
  cases Calendar.Format.ofText? format.toList with
  | none => simp
  | some f =>
    rw [Option.any_some, raises_mapError, Calendar.Format.roundTrips, raises_bind_pure,
      Calendar.Format.read?, raises_bind_pure]
    cases Pattern.Tree.read { ignoreCase := true } f.pattern <;> simp [Except.isOk, Except.toBool]

/-- Reading in formats that all make patterns comes to an end. -/
theorem not_raises_isDateInAny {formats : List String} {s : List Char}
    (h : formats.any isBrokenFormat = false) : ¬ Raises (Check.isDateInAny s formats) := by
  induction formats with
  | nil => simp [Check.isDateInAny]
  | cons format formats ih =>
    obtain ⟨hformat, hformats⟩ := Bool.or_eq_false_iff.1 h
    rw [Check.isDateInAny]
    cases hdate : Check.isDateIn format s with
    | error cause =>
      have hraises : Raises (Check.isDateIn format s) := ⟨cause, hdate⟩
      rw [raises_isDateIn, hformat] at hraises
      cases hraises
    | ok found => cases found <;> simp [bind, Except.bind, ih hformats]

/-- A single format is tried on every text. -/
theorem raises_isDateInAny_singleton {format : String} {s : List Char} :
    Raises (Check.isDateInAny s [format]) ↔ isBrokenFormat format = true := by
  have hrest (found : Bool) :
      ¬ Raises (if found = true then return true else Check.isDateInAny s []) := by
    cases found <;> simp [Check.isDateInAny]
  rw [Check.isDateInAny, raises_bind_iff (fun found => iff_of_false (hrest found) id), or_false,
    raises_isDateIn]

/-- The formats that are used without a parameter are sound. -/
theorem isBrokenFormat_defaultFormats : Check.defaultFormats.any isBrokenFormat = false := by
  decide +kernel

/-- Reading raises for a broken format only: a parameter gives one format, and the default ones are sound. -/
theorem raises_isDateInAny_formats {param : Option String} {s : List Char} :
    Raises (Check.isDateInAny s (Check.formats param)) ↔
      (Check.formats param).any isBrokenFormat = true := by
  have hdefault : Raises (Check.isDateInAny s Check.defaultFormats) ↔
      Check.defaultFormats.any isBrokenFormat = true :=
    iff_of_false (not_raises_isDateInAny isBrokenFormat_defaultFormats)
      (by simp [isBrokenFormat_defaultFormats])
  unfold Check.formats
  split
  · exact hdefault
  · exact hdefault
  · simp [raises_isDateInAny_singleton]

/-- The rule for dates can raise because of its format. -/
theorem Kind.date : Kind host "date" Check.date := by
  refine .ofTest .nothing .format rfl rfl rfl rfl fun v param => ?_
  cases v <;> simp [raises_isDateInAny_formats, Limit.isPassed]

/-! ## Comparison of fields -/

end Builtin

/-- An empty value differs from every value that is not blank. -/
theorem Value.same_eq_false_of_isEmpty {v w : Value} (hw : w.isEmpty = true)
    (hv : v.isBlank = false) : w.same v = false := by
  have hempty : v.isEmpty = false := by simp_all [isBlank]
  have hnull : v.isNull = false := by simp_all [isBlank]
  cases w with
  | text s =>
    obtain rfl : s = "" := by simpa [isEmpty] using hw
    cases v with
    | text t => simpa [same, isEmpty, Ne, eq_comm (a := "")] using hempty
    | _ => simp [same, asNumber, sameNumber]
  | list items =>
    obtain rfl : items = [] := by simpa [isEmpty] using hw
    cases v with
    | list others => simpa [same, sameItems, isEmpty] using hempty
    | _ => simp [same, asNumber, sameNumber]
  | tuple items =>
    obtain rfl : items = [] := by simpa [isEmpty] using hw
    cases v with
    | tuple others => simpa [same, sameItems, isEmpty] using hempty
    | _ => simp [same, asNumber, sameNumber]
  | set items =>
    obtain rfl : items = [] := by simpa [isEmpty] using hw
    cases v with
    | set others =>
      have hlength : others.length ≠ 0 := by simpa [isEmpty] using hempty
      simp [same, hlength.symm]
    | _ => simp [same, asNumber, sameNumber]
  | dict entries =>
    obtain rfl : entries = [] := by simpa [isEmpty] using hw
    cases v with
    | dict others =>
      have hlength : others.length ≠ 0 := by simpa [isEmpty] using hempty
      simp [same, hlength.symm]
    | _ => simp [same, asNumber, sameNumber]
  | _ => cases hw

/-- The comparison of an empty value with one that is not blank finds them different. -/
theorem Value.compare_eq_false_of_isEmpty {room : PairRoom} {depth : Nat} {v w : Value}
    (hw : w.isEmpty = true) (hv : v.isBlank = false) : w.compare room depth v = .ok false := by
  have hsame := same_eq_false_of_isEmpty hw hv
  have hempty : v.isEmpty = false := (Bool.or_eq_false_iff.1 hv).2
  cases w with
  | list items =>
    obtain rfl : items = [] := by simpa [isEmpty] using hw
    cases v with
    | list others =>
      have hlength : others.length ≠ 0 := by simpa [isEmpty] using hempty
      rw [compare, List.length_nil, if_neg hlength.symm]
    | _ => simp [compare, clashes, isSignaling, isNumber, hsame]
  | tuple items =>
    obtain rfl : items = [] := by simpa [isEmpty] using hw
    cases v with
    | tuple others => simpa [compare, compareItems, isEmpty] using hempty
    | _ => simp [compare, clashes, isSignaling, isNumber, hsame]
  | dict entries =>
    obtain rfl : entries = [] := by simpa [isEmpty] using hw
    cases v with
    | dict others =>
      have hlength : others.length ≠ 0 := by simpa [isEmpty] using hempty
      rw [compare, List.length_nil, if_neg hlength.symm]
    | _ => simp [compare, clashes, isSignaling, isNumber, hsame]
  | text | set => simp [compare, clashes, isSignaling, isNumber, hsame]
  | _ => cases hw

/-- A blank field equals no field that holds a value. -/
theorem Check.equalFields_of_blank {room : Value.PairRoom} {record : Record} {field other : String}
    (hfield : (record.value field).isBlank = false) (hother : (record.value other).isBlank = true) :
    Check.equalFields room record field other = .ok false := by
  have hne : other ≠ field := by
    rintro rfl
    rw [hfield] at hother
    cases hother
  rw [equalFields]
  rcases Bool.or_eq_true_iff.1 hother with hnull | hempty
  · simp [hnull]
  · simp [hne, Value.compare_eq_false_of_isEmpty hempty hfield]

namespace Builtin

section
variable {host : Host}

/-- The rule asks whether the field equals the one that the parameter names. -/
theorem equalsField_eq_asking (room : Value.PairRoom) :
    Check.equalsField room = Check.asking "equalsfield" (shown "equalsfield")
      fun field record param => (do
        let other ← Parameter.required "equalsfield" param
        Check.equalFields room record field (Text.trimmed other)) := by
  refine Check.optional_eq_asking (fun field record _ _ param => do
    let other := Text.trimmed (← Parameter.required "equalsfield" param)
    return if ← Check.equalFields room record field other then .pass else .fail (.text other))
    fun field record param => ?_
  cases param with
  | none => rfl
  | some p => exact bind_pure_eq_map

/-- A field is compared with another one as far as there is room for it. -/
theorem Kind.equalsField : Kind host "equalsfield" (Check.equalsField host.comparisons) := by
  refine .optional rfl (equalsField_eq_asking _) ⟨?reads, ?raises⟩
  case reads =>
    intro field record record' param hfield hsame halike
    cases param with
    | none => rfl
    | some p =>
      change Check.equalFields host.comparisons record' field (Text.trimmed p) =
        Check.equalFields host.comparisons record field (Text.trimmed p)
      rcases halike (Text.trimmed p) rfl with hother | ⟨hblank, hblank'⟩
      · simp only [Check.equalFields, hsame, hother]
      · have hfield' : (record'.value field).isBlank = false := by rw [hsame, hfield]
        rw [Check.equalFields_of_blank hfield' hblank', Check.equalFields_of_blank hfield hblank]
  case raises =>
    intro field record param hfield
    cases param with
    | none => exact iff_of_true (raises_error _) (.inl rfl)
    | some p =>
      have hmet : (demand "equalsfield").isMet host (some p) = true := rfl
      have hbeyond : isBeyond host "equalsfield" field record (some p) =
          !(Check.equalFields host.comparisons record field (Text.trimmed p)).isOk := by
        rw [isBeyond, show limit "equalsfield" = .nothing from rfl, Limit.isPassed_nothing]
        rfl
      rw [hmet, hbeyond, Bool.not_eq_true', isOk_eq_false_iff]
      exact (or_iff_right Bool.noConfusion).symm

/-! ## All rules -/

/-- Every rule of the library is of a kind. -/
theorem kind_of_mem : ∀ entry ∈ checks host, Kind host entry.1 entry.2 := by
  simp only [checks, List.forall_mem_cons]
  exact ⟨.required,
    .requiredFile,
    .ofWords Parameter.words List.contains rfl rfl rfl rfl,
    .ofWords Parameter.items List.contains rfl rfl rfl rfl,
    .ofWords Parameter.items (!List.contains · ·) rfl rfl rfl rfl,
    .ofDecision rfl rfl rfl rfl,
    .starts,
    .lengthRule rfl rfl rfl rfl,
    .lengthRule rfl rfl rfl rfl,
    .lengthRule rfl rfl rfl rfl,
    .numericRule rfl rfl rfl rfl,
    .numericRule rfl rfl rfl rfl,
    .sizeRule rfl rfl rfl rfl,
    .sizeRule rfl rfl rfl rfl,
    .sizeRule rfl rfl rfl rfl,
    .everyRule rfl rfl rfl rfl,
    .everyRule rfl rfl rfl rfl,
    .everyRule rfl rfl rfl rfl,
    .everyRule rfl rfl rfl rfl,
    .everyRule rfl rfl rfl rfl,
    .everyRule rfl rfl rfl rfl,
    .streetAddress,
    .everyRule rfl rfl rfl rfl,
    .everyRule rfl rfl rfl rfl,
    .everyRule rfl rfl rfl rfl,
    .everyRule rfl rfl rfl rfl,
    .everyRule rfl rfl rfl rfl,
    .ofDecision rfl rfl rfl rfl,
    .integer,
    .ofDecision rfl rfl rfl rfl,
    .validEmail,
    .ofString rfl rfl rfl rfl,
    .ofString rfl rfl rfl rfl,
    .ofString rfl rfl rfl rfl,
    .ofString rfl rfl rfl rfl,
    .ofString rfl rfl rfl rfl,
    .validJsonString,
    .ofText rfl rfl rfl rfl,
    .regex,
    .date,
    .minAge,
    .ofText rfl rfl rfl rfl,
    .iban,
    .equalsField,
    .extension,
    by simp⟩

/-- A rule found by its name is of a kind. -/
theorem kind {name : String} {check : Check} (h : check? host name = some check) :
    Kind host name check := by
  obtain ⟨before, after, hchecks, -⟩ := List.lookup_eq_some_iff.1 h
  exact kind_of_mem (name, check) (by rw [hchecks]; simp)

end

end Builtin

end RecordRules
