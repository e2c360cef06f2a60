import RecordRules.Proofs.Check.Passing
import RecordRules.Proofs.Value.Comparison
import RecordRules.Proofs.Value.WellFormed

/-!
# Equal fields

Of two fields of a well-formed record that both hold a value, one is found equal to the other if and only if the
other is found equal to the one (`Check.equalFields_symm`). So the rule `equalsfield` passes one of them with the
other as its parameter if and only if it passes the other with the one (`Check.equalsField_symm`), whatever room
there is for comparing nested values. Every record that is loaded from a file or read from a frame is well-formed
(`Record.wellFormed_load`, `Frame.wellFormed_records`).
-/

namespace RecordRules.Check

variable {room : Value.PairRoom} {record : Record} {a b : String}

/-- A field with a value that is not blank passes if it equals the field that the parameter names. -/
theorem equalsField_passes_iff (hblank : (record.value a).isBlank = false) (hb : Text.trimmed b = b) :
    equalsField room a record (some b) = .ok none ↔ equalFields room record a b = .ok true := by
  rw [Builtin.equalsField_eq_asking, asking_passes_iff hblank]
  show equalFields room record a (Text.trimmed b) = .ok true ↔ _
  rw [hb]

/-- A field that is found equal to another one is so from the side of the other one as well. -/
theorem equalFields_symm (hrecord : record.WellFormed) (ha : (record.value a).isNull = false)
    (h : equalFields room record a b = .ok true) : equalFields room record b a = .ok true := by
  by_cases hsame : b = a
  · rwa [hsame] at h ⊢
  · rw [equalFields] at h ⊢
    rw [ha, if_neg Bool.false_ne_true, if_neg (Ne.symm hsame)]
    split at h
    · cases h
    · exact (hrecord.value b).compare_symm (hrecord.value a) h

/-- **The rule `equalsfield` is symmetric** on fields that hold values. -/
theorem equalsField_symm (hrecord : record.WellFormed) (ha : Text.trimmed a = a)
    (hb : Text.trimmed b = b) (hvalue : (record.value a).isBlank = false)
    (hvalue' : (record.value b).isBlank = false) :
    equalsField room a record (some b) = .ok none ↔ equalsField room b record (some a) = .ok none := by
  have hnull {v : Value} (h : v.isBlank = false) : v.isNull = false := (Bool.or_eq_false_iff.1 h).1
  rw [equalsField_passes_iff hvalue hb, equalsField_passes_iff hvalue' ha]
  exact ⟨equalFields_symm hrecord (hnull hvalue), equalFields_symm hrecord (hnull hvalue')⟩

/-- Entries in another order, and numbers of another kind in a list in one of them. -/
theorem equalsField_symm_nested :
    let order := Value.dictOf [(.text "paid", .list [.bool true, .float (.ofRatio false 3 2)]),
      (.text "count", .int 2)]
    let copy := Value.dictOf [(.text "count", .float (.ofInt 2)),
      (.text "paid", .list [.int 1, .float (.ofRatio false 3 2)])]
    let record := [("order", order), ("copy", copy)]
    let room := Value.PairRoom.upTo 2
    Record.WellFormed record ∧ equalsField room "order" record (some "copy") = .ok none ∧
      equalsField room "copy" record (some "order") = .ok none := by
  intro order copy record room
  have hratio : Binary64.IsProper (.ofRatio false 3 2) := Binary64.isProper_ofRatio _ (by decide)
  have horder : order.WellFormed := Value.wellFormed_dictOf (by simp [hratio])
  have hcopy : copy.WellFormed := Value.wellFormed_dictOf (by simp [hratio, Binary64.isProper_ofInt])
  have hrecord : Record.WellFormed record :=
    List.forall_mem_cons.2 ⟨horder, List.forall_mem_singleton.2 hcopy⟩
  have hpasses : equalsField room "order" record (some "copy") = .ok none :=
    (equalsField_passes_iff (by decide +kernel) (by decide +kernel)).2 (by decide +kernel)
  exact ⟨hrecord, hpasses, (equalsField_symm hrecord (by decide +kernel) (by decide +kernel)
    (by decide +kernel) (by decide +kernel)).1 hpasses⟩

end RecordRules.Check
