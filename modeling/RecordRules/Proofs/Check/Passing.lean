import RecordRules.Proofs.Builtin.Kinds

/-!
# When a check is passed

The check of a rule that asks a question is passed by blank fields, and by any other value if the answer
is yes (`Check.asking_passes_iff`). A failure reports the rule with what it was asked about
(`Check.eq_of_asking_eq_some`). The check raises when the question has no answer.
-/

namespace RecordRules

/-- A text with characters is not blank. -/
theorem Value.isBlank_text {s : String} (hs : s.toList ≠ []) : (text s).isBlank = false := by
  simpa [isBlank, isNull, isEmpty] using hs

namespace Check

section
variable {rule field : String} {record : Record} {param : Option String} {shown : Option String → Value}
  {asks : String → Record → Option String → Except Cause Bool}
  {holds : Value → Option String → Except Cause Bool}

/-- A blank value is not asked about. -/
theorem asking_of_isBlank (hblank : (record.value field).isBlank = true) :
    asking rule shown asks field record param = .ok none := by
  rw [asking, if_pos hblank]

/-- Of any other value the answer is reported as it comes out. -/
theorem asking_eq_map (hblank : (record.value field).isBlank = false) :
    asking rule shown asks field record param = (asks field record param).map fun ok =>
      if ok then none else some ⟨field, record.value field, rule, shown param⟩ := by
  rw [asking, hblank]
  rfl

/-- A fault while asking is the rule's own. -/
theorem asking_eq_error {cause : Cause} (hblank : (record.value field).isBlank = false)
    (hraised : asks field record param = .error cause) :
    asking rule shown asks field record param = .error cause := by
  rw [asking_eq_map hblank, hraised]
  rfl

/-- A failure reports the rule, the field with its value and the parameter that is shown. -/
theorem eq_of_asking_eq_some {f : Failure}
    (h : asking rule shown asks field record param = .ok (some f)) :
    f = ⟨field, record.value field, rule, shown param⟩ := by
  cases hblank : (record.value field).isBlank with
  | true =>
    rw [asking_of_isBlank hblank] at h
    cases h
  | false =>
    rw [asking_eq_map hblank] at h
    obtain ⟨answer, -, hfailure⟩ := map_eq_ok_iff.1 h
    cases answer with
    | true => cases hfailure
    | false => exact (Option.some.inj hfailure).symm

/-- A value that is not blank passes if the answer about it is yes. -/
theorem asking_passes_iff (hblank : (record.value field).isBlank = false) :
    asking rule shown asks field record param = .ok none ↔ asks field record param = .ok true := by
  rw [asking_eq_map hblank, map_eq_ok_iff]
  constructor
  · rintro ⟨answer, hanswer, hpasses⟩
    cases answer with
    | true => exact hanswer
    | false => cases hpasses
  · intro hyes
    exact ⟨true, hyes, rfl⟩

/-- The check of a value that is not blank raises if there is no answer about it. -/
theorem raises_asking_iff (hblank : (record.value field).isBlank = false) :
    Raises (asking rule shown asks field record param) ↔ Raises (asks field record param) := by
  rw [asking_eq_map hblank, raises_map]

/-- A blank value is not tested. -/
theorem ofTest_of_isBlank (hblank : (record.value field).isBlank = true) :
    ofTest rule holds field record param = .ok none := by
  rw [ofTest_eq_asking, asking_of_isBlank hblank]

/-- Any other value passes when the test holds of it. -/
theorem ofTest_passes_iff (hblank : (record.value field).isBlank = false) :
    ofTest rule holds field record param = .ok none ↔
      holds (record.value field) param = .ok true := by
  rw [ofTest_eq_asking, asking_passes_iff hblank]

/-- And the rule raises when the test does. -/
theorem raises_ofTest_iff (hblank : (record.value field).isBlank = false) :
    Raises (ofTest rule holds field record param) ↔ Raises (holds (record.value field) param) := by
  rw [ofTest_eq_asking, raises_asking_iff hblank]

end

end Check

end RecordRules
