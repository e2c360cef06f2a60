import RecordRules.Message.Template
import RecordRules.Proofs.Text.Split

/-!
# Faults of templates

A template that cannot be formatted is replaced by another one, unless it asks a text for something
that no text has. `Template.Asks` tells from the template alone whether it can ask for such a thing:
an attribute, or a place that is no number. A template that does not has only faults that it can be
replaced for (`Template.format_recovers`). The faults are followed through the parts of the
formatter, one lemma for each.
-/

namespace RecordRules.Template

variable {lookup : List Char → List Char} {expand : List Char → Except TemplateFault (List Char)}
  {name : List Char} {fuel : Nat}

/-! ## What a template asks for -/

/-- What follows the name of a slot asks for something that no text has: an attribute, or a place
that is no number, perhaps after characters picked by their places. -/
inductive AsksBeyond : List Char → Prop
  | attribute {c : Char} {rest : List Char} : c ≠ '.' → c ≠ '[' → AsksBeyond ('.' :: c :: rest)
  | place {c : Char} {place rest : List Char} : ']' ∉ place → c ∈ place →
      Text.isDecimalDigit c = false → AsksBeyond ('[' :: place ++ ']' :: rest)
  | later {place rest : List Char} : place ≠ [] → (∀ c ∈ place, Text.isDecimalDigit c = true) →
      AsksBeyond rest → AsksBeyond ('[' :: place ++ ']' :: rest)

/-- What follows the part of a name that is looked up. -/
def accesses (name : List Char) : List Char :=
  name.drop (name.takeWhile fun c => c ≠ '.' && c ≠ '[').length

/-- A template asks for something that no text has, in a slot or in a slot of a layout. -/
inductive Asks : List Char → Prop
  | slot {template name layout : List Char} {conversion : Option Char} :
      .slot name conversion layout ∈ pieces template → AsksBeyond (accesses name) → Asks template
  | layout {template name layout : List Char} {conversion : Option Char} :
      .slot name conversion layout ∈ pieces template → Asks layout → Asks template

/-- A text without an opening brace has no slots. -/
theorem mem_of_slot_mem_pieces {s layout : List Char} {conversion : Option Char}
    (h : .slot name conversion layout ∈ piecesWithin fuel s) : '\x7b' ∈ s := by
  fun_induction piecesWithin fuel s with
  | case1 | case2 => cases h
  | case3 | case6 | case7 | case8 => exact List.mem_cons_self
  | case4 _ _ ih =>
    exact List.mem_cons_of_mem _ (List.mem_cons_of_mem _ (ih (by simpa using h)))
  | case5 => simp at h
  | case9 _ _ _ _ _ _ _ ih => exact List.mem_cons_of_mem _ (ih (by simpa using h))

/-- The slots of a template refer to whole texts, and their layouts hold no slots. -/
def isPlain (template : List Char) : Bool :=
  (pieces template).all fun
    | .slot name _ layout => name.all (fun c => c ≠ '.' && c ≠ '[') && !layout.contains '\x7b'
    | _ => true

/-- A plain template asks for nothing. -/
theorem not_asks_of_isPlain {template : List Char} (h : isPlain template = true) :
    ¬Asks template := by
  have hplain : ∀ {name conversion layout}, .slot name conversion layout ∈ pieces template →
      accesses name = [] ∧ '\x7b' ∉ layout := by
    intro name conversion layout hslot
    have hpiece := List.all_eq_true.1 h _ hslot
    rw [Bool.and_eq_true] at hpiece
    have hname : name.takeWhile (fun c => c ≠ '.' && c ≠ '[') = name :=
      List.takeWhile_eq_self_iff.2 (List.all_eq_true.1 hpiece.1)
    exact ⟨by rw [accesses, hname, List.drop_length], by simpa using hpiece.2⟩
  intro hasks
  cases hasks with
  | slot hslot hbeyond =>
    rw [(hplain hslot).1] at hbeyond
    cases hbeyond
  | layout hslot hlayout =>
    cases hlayout with
    | slot hinner _ | layout hinner _ =>
      exact (hplain hslot).2 (mem_of_slot_mem_pieces hinner)

/-! ## Recovery -/

attribute [simp] TemplateFault.isRecoverable

/-- Every fault is one for which another template is tried. -/
def Recovers {α : Type} (x : Except TemplateFault α) : Prop :=
  ∀ fault, x = .error fault → fault.isRecoverable = true

section
variable {α β : Type} {x : Except TemplateFault α}

@[simp] theorem recovers_ok (a : α) : Recovers (.ok a : Except TemplateFault α) := nofun

@[simp] theorem recovers_pure (a : α) : Recovers (pure a : Except TemplateFault α) := recovers_ok a

@[simp] theorem recovers_error {fault : TemplateFault} :
    Recovers (.error fault : Except TemplateFault α) ↔ fault.isRecoverable = true := by
  constructor
  · intro h
    exact h fault rfl
  · rintro h _ ⟨⟩
    exact h

@[simp] theorem recovers_throw {fault : TemplateFault} :
    Recovers (throw fault : Except TemplateFault α) ↔ fault.isRecoverable = true := recovers_error

/-- One step after another recovers if both do. -/
theorem Recovers.bind {f : α → Except TemplateFault β} (hx : Recovers x)
    (hf : ∀ a, x = .ok a → Recovers (f a)) : Recovers (x >>= f) := by
  cases x with
  | error fault =>
    rintro _ ⟨⟩
    exact hx fault rfl
  | ok a => exact hf a rfl

end

/-- A width or precision may be missing or too long, neither of which is beyond recovery. -/
theorem readNumber_recovers (s : List Char) : Recovers (readNumber s) := by
  unfold readNumber
  dsimp only
  split
  · simp
  · split <;> simp

/-- Thousands separators may be given twice. -/
theorem readGrouping_recovers (s : List Char) : Recovers (readGrouping s) := by
  unfold readGrouping
  dsimp only
  split
  · simp
  · split
    · simp
    · split <;> simp

/-- A point may stand without its digits. -/
theorem readPrecision_recovers (s : List Char) : Recovers (readPrecision s) := by
  unfold readPrecision
  dsimp only
  split
  · simp
  · refine (readNumber_recovers _).bind fun r _ => ?_
    split <;> simp

/-- A kind may not go with separators. -/
theorem checkGrouping_recovers (grouping : Option Char) (kind : Char) :
    Recovers (checkGrouping grouping kind) := by
  unfold checkGrouping
  split
  · simp
  · split <;> simp

/-- A text may not go with what is asked of numbers. -/
theorem checkForText_recovers (kind : Char) (sign : Option Char) (coerced alternate : Bool)
    (alignment : Option Alignment) :
    Recovers (checkForText kind sign coerced alternate alignment) := by
  unfold checkForText
  repeat' split
  all_goals simp

/-- A layout is read part by part. -/
theorem readLayout_recovers (s : List Char) : Recovers (readLayout s) := by
  unfold readLayout
  dsimp only
  refine (readNumber_recovers _).bind fun width _ => ?_
  refine (readGrouping_recovers _).bind fun grouping _ => ?_
  refine (readPrecision_recovers _).bind fun precision _ => ?_
  split
  · simp
  · refine (checkGrouping_recovers _ _).bind fun _ _ => ?_
    exact (checkForText_recovers _ _ _ _ _).bind fun _ _ => recovers_pure _

/-- A text may not go with its layout. -/
theorem layOut_recovers (layout text : List Char) : Recovers (layOut layout text) := by
  unfold layOut
  split
  · simp
  · exact (readLayout_recovers layout).bind fun l _ => by simp

/-- A conversion may be unknown. -/
theorem convert_recovers (conversion : Option Char) (text : List Char) :
    Recovers (convert conversion text) := by
  unfold convert
  split <;> simp

/-- A place that is no number is not digits throughout. -/
theorem exists_not_isDecimalDigit {place : List Char} {r : Option Nat × List Char}
    (h : readNumber place = .ok r) (hr : ∀ n, r ≠ (some n, [])) (hne : place ≠ []) :
    ∃ c ∈ place, Text.isDecimalDigit c = false := by
  by_contra hdigits
  have hall : place.takeWhile Text.isDecimalDigit = place :=
    List.takeWhile_eq_self_iff.2 fun c hc => by
      by_contra hdigit
      exact hdigits ⟨c, hc, Bool.eq_false_iff.2 hdigit⟩
  simp only [readNumber, hall, List.isEmpty_eq_false_iff.2 hne, Bool.false_eq_true, if_false,
    List.drop_length] at h
  split at h
  · cases h
  · exact hr _ (Except.ok.inj h).symm

/-- A place that is a number is digits throughout. -/
theorem forall_isDecimalDigit {place : List Char} {n : Nat}
    (h : readNumber place = .ok (some n, [])) :
    place ≠ [] ∧ ∀ c ∈ place, Text.isDecimalDigit c = true := by
  simp only [readNumber] at h
  split at h
  · cases h
  · next hne =>
    split at h
    · cases h
    · obtain ⟨-, hdrop⟩ : _ ∧ place.length ≤ (place.takeWhile Text.isDecimalDigit).length := by
        simpa using h
      have hall : place.takeWhile Text.isDecimalDigit = place :=
        (List.takeWhile_prefix _).eq_of_length_le hdrop
      rw [hall] at hne
      exact ⟨by simpa using hne, List.takeWhile_eq_self_iff.1 hall⟩

/-- What does not ask for more than characters by their places has no other faults. -/
theorem access_recovers {fuel : Nat} {text after : List Char} (h : ¬AsksBeyond after) :
    Recovers (access fuel text after) := by
  fun_induction access fuel text after with
  | case1 | case2 => exact recovers_ok _
  | case3 | case5 | case7 => exact recovers_error.2 rfl
  | case4 fuel text rest hname =>
    cases rest with
    | nil => exact absurd rfl hname
    | cons c rest =>
      have hc : c ≠ '.' ∧ c ≠ '[' := by
        by_contra hc
        exact hname (List.takeWhile_cons_of_neg (by simpa using hc))
      exact absurd (.attribute hc.1 hc.2) h
  | case6 fuel text rest place c after hafter _ ih =>
    obtain rfl : c = ']' := Text.eq_of_dropWhile_ne hafter
    obtain ⟨hclose, hrest⟩ := Text.cut_iff.1 ⟨(rfl : _ = place), hafter⟩
    rw [hrest] at h
    refine (readNumber_recovers place).bind fun r hnumber => ?_
    split
    · next n =>
      obtain ⟨hne, hdigits⟩ := forall_isDecimalDigit hnumber
      split
      · next d _ => exact ih d fun hasks => h (.later hne hdigits hasks)
      · exact recovers_throw.2 rfl
    · next hr =>
      split
      · exact recovers_throw.2 rfl
      · next hne =>
        have hnone : ∀ n, r ≠ (some n, []) := fun n => hr n
        obtain ⟨d, hd, hdigit⟩ := exists_not_isDecimalDigit hnumber hnone (by simpa using hne)
        exact absurd (.place hclose hd hdigit) h

/-- A name that asks for nothing beyond a text's characters may be unknown, or a place too large. -/
theorem resolve_recovers (h : ¬AsksBeyond (accesses name)) : Recovers (resolve lookup name) := by
  unfold resolve
  dsimp only
  refine (readNumber_recovers _).bind fun r _ => ?_
  split
  · simp
  · exact access_recovers h

/-- The layout of a slot may not be closed. -/
theorem layoutSlot_recovers (name : List Char) (conversion : Option Char) (s : List Char) :
    Recovers (layoutSlot name conversion s) := by
  unfold layoutSlot
  split <;> simp

/-- The conversion of a slot may not be closed. -/
theorem conversionSlot_recovers (name s : List Char) : Recovers (conversionSlot name s) := by
  unfold conversionSlot
  split
  · simp
  · simp
  · split
    · simp
    · split
      · exact layoutSlot_recovers _ _ _
      · simp

/-- A slot may not be closed. -/
theorem readSlot_recovers (s : List Char) : Recovers (readSlot s) := by
  unfold readSlot
  dsimp only
  split
  · simp
  · split
    · simp
    · split
      · exact layoutSlot_recovers _ _ _
      · split
        · exact conversionSlot_recovers _ _
        · simp

section
variable {s after : List Char} {piece : Piece} {conversion : Option Char}

/-! What is read after an opening brace is a slot. -/

/-- A slot that is read through its layout is a slot. -/
theorem exists_slot_of_layoutSlot (h : layoutSlot name conversion s = .ok (piece, after)) :
    ∃ layout, piece = .slot name conversion layout := by
  unfold layoutSlot at h
  split at h
  · cases h
  · cases h
    exact ⟨_, rfl⟩

/-- So is one that is read through its conversion. -/
theorem exists_slot_of_conversionSlot (h : conversionSlot name s = .ok (piece, after)) :
    ∃ conversion layout, piece = .slot name conversion layout := by
  unfold conversionSlot at h
  split at h
  · cases h
  · cases h
  · split at h
    · cases h
      exact ⟨_, _, rfl⟩
    · split at h
      · exact ⟨_, exists_slot_of_layoutSlot h⟩
      · cases h

/-- What is read after an opening brace is a slot. -/
theorem exists_slot_of_readSlot (h : readSlot s = .ok (piece, after)) :
    ∃ name conversion layout, piece = .slot name conversion layout := by
  unfold readSlot at h
  dsimp only at h
  split at h
  · cases h
  · split at h
    · cases h
      exact ⟨_, _, _, rfl⟩
    · split at h
      · exact ⟨_, _, exists_slot_of_layoutSlot h⟩
      · split at h
        · exact ⟨_, exists_slot_of_conversionSlot h⟩
        · cases h

end

/-- The pieces of a template hold no fault that another template could not replace: what lies
beyond recovery shows when a slot is filled. -/
theorem isRecoverable_of_mem_pieces {s : List Char} {fault : TemplateFault}
    (h : .malformed fault ∈ piecesWithin fuel s) : fault.isRecoverable = true := by
  fun_induction piecesWithin fuel s with
  | case1 | case2 => cases h
  | case3 _ _ ih | case4 _ _ ih | case9 _ _ _ _ _ _ _ ih => exact ih (by simpa using h)
  | case5 | case6 =>
    obtain rfl : fault = _ := by simpa using h
    rfl
  | case7 fuel rest _ fault' hslot =>
    obtain rfl : fault = fault' := by simpa using h
    exact readSlot_recovers rest fault hslot
  | case8 fuel rest _ piece after hslot _ _ _ ih =>
    obtain ⟨name, conversion, layout, rfl⟩ := exists_slot_of_readSlot hslot
    exact ih (by simpa using h)

/-- A slot that is filled recovers when what it asks for does. -/
theorem fill_recovers {pieces : List Piece}
    (hmalformed : ∀ fault, .malformed fault ∈ pieces → fault.isRecoverable = true)
    (hslot : ∀ name conversion layout, .slot name conversion layout ∈ pieces →
      ¬AsksBeyond (accesses name) ∧ Recovers (expand layout)) :
    Recovers (fill lookup expand pieces) := by
  induction pieces with
  | nil => exact recovers_ok _
  | cons piece pieces ih =>
    have hrest := ih (fun fault h => hmalformed fault (List.mem_cons_of_mem _ h))
      fun name conversion layout h => hslot name conversion layout (List.mem_cons_of_mem _ h)
    cases piece with
    | literal text => exact hrest.bind fun _ _ => recovers_pure _
    | malformed fault => exact recovers_error.2 (hmalformed fault (by simp))
    | slot name conversion layout =>
      obtain ⟨hname, hlayout⟩ := hslot name conversion layout (by simp)
      refine (resolve_recovers hname).bind fun text _ => ?_
      refine (convert_recovers conversion text).bind fun shown _ => ?_
      have hfinish : ∀ written, Recovers (do
          let laidOut ← layOut written shown
          return laidOut ++ (← fill lookup expand pieces)) := fun written =>
        (layOut_recovers written shown).bind fun _ _ => hrest.bind fun _ _ => recovers_pure _
      dsimp only
      split
      · exact hlayout.bind fun written _ => hfinish written
      · exact hfinish layout

/-- A template that asks for nothing recovers at every depth of its layouts. -/
theorem formatWithin_recovers {depth : Nat} {template : List Char} (h : ¬Asks template) :
    Recovers (formatWithin lookup depth template) := by
  induction depth generalizing template with
  | zero => exact recovers_error.2 rfl
  | succ depth ih =>
    refine fill_recovers (fun _ => isRecoverable_of_mem_pieces) fun name conversion layout hslot => ?_
    exact ⟨fun hname => h (.slot hslot hname), ih fun hlayout => h (.layout hslot hlayout)⟩

/-- **A template that asks for nothing that texts lack** has only faults for which another template
is tried. -/
theorem format_recovers {template : List Char} (h : ¬Asks template) :
    Recovers (format lookup template) :=
  formatWithin_recovers h

end RecordRules.Template
