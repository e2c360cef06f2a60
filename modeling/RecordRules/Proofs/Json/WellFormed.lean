import RecordRules.Json.Reader
import RecordRules.Proofs.Traversal
import RecordRules.Proofs.Value.WellFormed

/-!
# JSON texts hold well-formed values

Whatever value the JSON reader reads is well-formed (`Json.wellFormed_read`): numbers are kept in their form,
and a repeated name does not give an object a second entry. The open containers hold nothing else meanwhile
(`Frame.WellFormed`), and each step of the reader keeps it so (`readValue_sound`, `putValue_sound`).
-/

namespace RecordRules.Json

variable {depthLimit : Nat} {v : Value} {s after : Source} {stack : List Frame} {frame : Frame} {task : Task}
  {next : Task × List Frame × Source}

/-! ## Scalars -/

/-- A number that is read is an integer or a number of the binary format. -/
theorem wellFormed_numberValue {negative : Bool} {whole fraction exponent : List Char}
    (h : numberValue negative whole fraction exponent = .ok v) : v.WellFormed := by
  rw [numberValue] at h
  split at h
  · split at h
    · cases h
    · cases h
      exact .atom trivial
  · cases h
    cases Numeral.readUnsigned? negative (whole ++ fraction ++ exponent) with
    | none => exact .atom trivial
    | some numeral => exact .atom (Binary64.isProper_ofNumeral numeral)

/-- So is what stands where a number begins. -/
theorem wellFormed_readNumber (h : readNumber s = .ok (v, after)) : v.WellFormed := by
  rw [readNumber] at h
  split at h
  dsimp only at h
  split at h
  · cases h
  · obtain ⟨w, hw, h⟩ := bind_eq_ok_iff.1 h
    cases h
    exact wellFormed_numberValue hw

/-- The values that have names of their own are well-formed, the infinities and "not a number"
among them. -/
theorem wellFormed_of_mem_words : ∀ entry ∈ words, entry.2.WellFormed := by
  simp only [words, List.forall_mem_cons]
  exact ⟨.atom trivial, .atom trivial, .atom trivial, .atom trivial, .atom trivial, .atom trivial,
    List.forall_mem_nil _⟩

/-- A value without items is well-formed. -/
theorem wellFormed_readScalar (h : readScalar s = .ok (v, after)) : v.WellFormed := by
  rw [readScalar] at h
  split at h
  · next word w hfound =>
    cases h
    exact wellFormed_of_mem_words _ (List.mem_of_find?_eq_some hfound)
  · exact wellFormed_readNumber h

/-! ## Containers -/

/-- An open container has well-formed values in it. -/
def Frame.WellFormed : Frame → Prop
  | array items => ∀ v ∈ items, v.WellFormed
  | object entries _ => ∀ e ∈ entries, e.1.WellFormed ∧ e.2.WellFormed

/-- An object stays well-formed with the entry that was awaited. -/
theorem Frame.WellFormed.entry {entries : List (Value × Value)} {key : String}
    (h : (object entries key).WellFormed) (hv : v.WellFormed) :
    ∀ e ∈ (.text key, v) :: entries, e.1.WellFormed ∧ e.2.WellFormed :=
  List.forall_mem_cons.2 ⟨⟨.atom trivial, hv⟩, h⟩

/-- A value that is going to be put is well-formed. -/
def Task.WellFormed : Task → Prop
  | read => True
  | put v => v.WellFormed

/-- What the reader goes on with is well-formed. -/
structure Sound (next : Task × List Frame × Source) : Prop where
  task : next.1.WellFormed
  stack : ∀ frame ∈ next.2.1, frame.WellFormed

/-- Opening a list puts an empty one on the stack. -/
theorem openArray_sound (hstack : ∀ frame ∈ stack, frame.WellFormed) : Sound (openArray stack s) := by
  rw [openArray]
  split
  · exact ⟨.list (List.forall_mem_nil _), hstack⟩
  · exact ⟨trivial, List.forall_mem_cons.2 ⟨List.forall_mem_nil _, hstack⟩⟩

/-- Opening an object puts an empty one on the stack. -/
theorem openObject_sound (hstack : ∀ frame ∈ stack, frame.WellFormed)
    (h : openObject stack s = .ok next) : Sound next := by
  rw [openObject] at h
  split at h
  · cases h
    exact ⟨.dict (List.forall_mem_nil _) (List.forall_mem_nil _) .nil, hstack⟩
  · obtain ⟨name, -, h⟩ := bind_eq_ok_iff.1 h
    cases h
    exact ⟨trivial, List.forall_mem_cons.2 ⟨List.forall_mem_nil _, hstack⟩⟩

/-- Reading a value keeps the stack well-formed. -/
theorem readValue_sound (hstack : ∀ frame ∈ stack, frame.WellFormed)
    (h : readValue depthLimit stack s = .ok next) : Sound next := by
  rw [readValue] at h
  split at h
  · cases h
  · obtain ⟨text, -, h⟩ := bind_eq_ok_iff.1 h
    cases h
    exact ⟨.atom trivial, hstack⟩
  · split at h
    · cases h
    · cases h
      exact openArray_sound hstack
  · split at h
    · cases h
    · exact openObject_sound hstack h
  · obtain ⟨⟨v, after⟩, hscalar, h⟩ := bind_eq_ok_iff.1 h
    cases h
    exact ⟨wellFormed_readScalar hscalar, hstack⟩

/-- Putting a well-formed value into its container keeps the stack well-formed: a name that is
there already has its value exchanged. -/
theorem putValue_sound (hv : v.WellFormed) (hframe : frame.WellFormed)
    (hstack : ∀ frame ∈ stack, frame.WellFormed) (h : putValue v frame stack s = .ok next) :
    Sound next := by
  unfold putValue at h
  dsimp only at h
  split at h
  · cases h
    refine ⟨.list fun w hw => ?_, hstack⟩
    exact List.forall_mem_cons.2 ⟨hv, hframe⟩ w (List.mem_reverse.1 hw)
  · cases h
    exact ⟨trivial, List.forall_mem_cons.2 ⟨List.forall_mem_cons.2 ⟨hv, hframe⟩, hstack⟩⟩
  · cases h
    refine ⟨Value.wellFormed_dictOf fun e he => ?_, hstack⟩
    exact hframe.entry hv e (List.mem_reverse.1 he)
  · obtain ⟨name, -, h⟩ := bind_eq_ok_iff.1 h
    cases h
    exact ⟨trivial, List.forall_mem_cons.2 ⟨hframe.entry hv, hstack⟩⟩
  · cases h

/-- Reading on from where all is well-formed ends in a well-formed value. -/
theorem wellFormed_work {fuel : Nat} (hnext : Sound (task, stack, s))
    (h : work depthLimit fuel task stack s = .ok (v, after)) : v.WellFormed := by
  induction fuel generalizing task stack s with
  | zero => cases h
  | succ fuel ih =>
    cases task with
    | read =>
      rw [work] at h
      obtain ⟨next, hvalue, h⟩ := bind_eq_ok_iff.1 h
      exact ih (readValue_sound hnext.stack hvalue) h
    | put w =>
      cases stack with
      | nil =>
        rw [work] at h
        cases h
        exact hnext.task
      | cons frame stack =>
        rw [work] at h
        obtain ⟨hframe, hstack⟩ := List.forall_mem_cons.1 hnext.stack
        obtain ⟨next, hvalue, h⟩ := bind_eq_ok_iff.1 h
        exact ih (putValue_sound hnext.task hframe hstack hvalue) h

/-- **A value that is read is well-formed.** -/
theorem wellFormed_read {text : List Char} (h : read depthLimit text = .ok v) : v.WellFormed := by
  rw [read] at h
  split at h
  · cases h
  · obtain ⟨⟨w, after⟩, hwork, h⟩ := bind_eq_ok_iff.1 h
    have hstart : Sound (.read, [], Source.skipSpace ⟨text, 0⟩) := ⟨trivial, List.forall_mem_nil _⟩
    dsimp only at h
    split at h
    · cases h
      exact wellFormed_work hstart hwork
    · cases h

end RecordRules.Json
