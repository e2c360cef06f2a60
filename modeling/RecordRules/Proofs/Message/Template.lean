import Mathlib.Data.List.TakeWhile
import RecordRules.Message.Template

/-!
# Written templates

A template can be written from literal texts, with their braces doubled, and named slots. It is
formatted in one pass to the literal texts and the texts of the slots, whatever these hold
(`Template.format_source`).
-/

namespace RecordRules.Template

variable {lookup : List Char → List Char} {expand : List Char → Except TemplateFault (List Char)}
  {name rest text : List Char} {fuel : Nat}

/-! ## Written templates -/

/-- A part of a template: a literal text or a named slot. -/
inductive Segment
  | literal (text : List Char)
  | slot (name : List Char)
  deriving DecidableEq

/-- Characters that end the name of a slot, or the part of it that is looked up. -/
def isNameEnd (c : Char) : Bool := "\x7b\x7d:!.[".toList.contains c

/-- A name is looked up as it stands: it does not start with a digit and nothing in it ends it. -/
def isSlotName (name : List Char) : Bool :=
  name.head?.any (!Text.isDecimalDigit ·) && name.all (!isNameEnd ·)

/-- A character of a literal text; braces are doubled. -/
def escapeBrace (c : Char) : List Char := if c = '\x7b' ∨ c = '\x7d' then [c, c] else [c]

/-- How a part is written. -/
def Segment.source : Segment → List Char
  | literal text => text.flatMap escapeBrace
  | slot name => '\x7b' :: name ++ ['\x7d']

/-- The template of parts. -/
def source (segments : List Segment) : List Char := segments.flatMap Segment.source

/-- The text of a part. -/
def Segment.filled (lookup : List Char → List Char) : Segment → List Char
  | literal text => text
  | slot name => lookup name

/-- The text of parts, one after the other. -/
def filled (lookup : List Char → List Char) (segments : List Segment) : List Char :=
  segments.flatMap (Segment.filled lookup)

/-- The pieces that a part is read as. A literal text is read by characters. -/
def Segment.pieces : Segment → List Piece
  | literal text => text.map fun c => .literal [c]
  | slot name => [.slot name none []]

/-- A name is read up to the closing brace. -/
theorem readName_of_isNameEnd (h : ∀ c ∈ name, isNameEnd c = false) :
    readName false (name ++ '\x7d' :: rest) = (name, '\x7d' :: rest) := by
  induction name with
  | nil => simp [readName]
  | cons c name ih =>
    have hc : isNameEnd c = false := h c (by simp)
    simp [isNameEnd] at hc
    simp [readName, hc, ih fun d hd => h d (by simp [hd])]

/-- A slot is read up to the brace that closes it. -/
theorem readSlot_of_isSlotName (h : isSlotName name = true) :
    readSlot (name ++ '\x7d' :: rest) = .ok (.slot name none [], rest) := by
  have hends : ∀ c ∈ name, isNameEnd c = false := by simpa using (Bool.and_eq_true_iff.1 h).2
  rw [readSlot, readName_of_isNameEnd hends]
  rfl

/-- A literal text is read by characters. -/
theorem piecesWithin_literal (h : (text.flatMap escapeBrace ++ rest).length ≤ fuel) :
    ∃ fuel', rest.length ≤ fuel' ∧ piecesWithin fuel (text.flatMap escapeBrace ++ rest) =
      text.map (fun c => .literal [c]) ++ piecesWithin fuel' rest := by
  induction text generalizing fuel with
  | nil => exact ⟨fuel, h, rfl⟩
  | cons c text ih =>
    rw [List.flatMap_cons, List.append_assoc] at h ⊢
    have hpos : 0 < (escapeBrace c).length := by
      rw [escapeBrace]
      split <;> simp
    rw [List.length_append] at h
    obtain ⟨fuel, rfl⟩ := Nat.exists_eq_add_of_le' (Nat.le_trans hpos (Nat.le_of_add_right_le h))
    have hshort : (text.flatMap escapeBrace ++ rest).length ≤ fuel := by omega
    obtain ⟨fuel', hfuel', hpieces⟩ := ih hshort
    refine ⟨fuel', hfuel', ?_⟩
    rw [List.map_cons, List.cons_append, ← hpieces, escapeBrace]
    split
    · next hc =>
      rcases hc with rfl | rfl <;> rfl
    · next hc =>
      rw [not_or] at hc
      simp [piecesWithin, hc]

/-- A slot is one piece. -/
theorem piecesWithin_slot (hname : isSlotName name = true)
    (h : ('\x7b' :: name ++ '\x7d' :: rest).length ≤ fuel) :
    ∃ fuel', rest.length ≤ fuel' ∧ piecesWithin fuel ('\x7b' :: name ++ '\x7d' :: rest) =
      .slot name none [] :: piecesWithin fuel' rest := by
  have hslot : readSlot (name ++ '\x7d' :: rest) = .ok (.slot name none [], rest) :=
    readSlot_of_isSlotName hname
  cases name with
  | nil => cases hname
  | cons c name =>
    have hc : c ≠ '\x7b' := by
      rintro rfl
      simp [isSlotName, isNameEnd] at hname
    simp only [List.cons_append, List.length_cons, List.length_append] at h hslot ⊢
    obtain ⟨fuel, rfl⟩ : ∃ k, fuel = k + 1 := Nat.exists_eq_succ_of_ne_zero (by omega)
    exact ⟨fuel, by omega, by simp [piecesWithin, hc, hslot]⟩

/-- The pieces of a written template are those of its parts. -/
theorem piecesWithin_source {segments : List Segment}
    (hnames : ∀ name, .slot name ∈ segments → isSlotName name = true)
    (h : (source segments).length ≤ fuel) :
    piecesWithin fuel (source segments) = segments.flatMap Segment.pieces := by
  induction segments generalizing fuel with
  | nil => cases fuel <;> rfl
  | cons segment segments ih =>
    have hrest : ∀ name, .slot name ∈ segments → isSlotName name = true := fun name hname =>
      hnames name (List.mem_cons_of_mem _ hname)
    cases segment with
    | literal text =>
      have hcons : source (.literal text :: segments) =
          text.flatMap escapeBrace ++ source segments := rfl
      rw [hcons] at h ⊢
      obtain ⟨fuel', hfuel', hpieces⟩ := piecesWithin_literal h
      rw [List.flatMap_cons, ← ih hrest hfuel']
      exact hpieces
    | slot name =>
      have hcons : source (.slot name :: segments) =
          '\x7b' :: name ++ '\x7d' :: source segments := by
        simp [source, Segment.source]
      rw [hcons] at h ⊢
      obtain ⟨fuel', hfuel', hpieces⟩ := piecesWithin_slot (hnames name (by simp)) h
      rw [List.flatMap_cons, ← ih hrest hfuel']
      exact hpieces

/-! ## Filled templates -/

/-- A text that starts with no digit starts with no number. -/
theorem readNumber_of_head {c : Char} (h : Text.isDecimalDigit c = false) :
    readNumber (c :: rest) = .ok (none, c :: rest) := by
  simp [readNumber, h]

/-- The text of a name that is looked up as it stands. -/
theorem resolve_of_isSlotName (h : isSlotName name = true) :
    resolve lookup name = .ok (lookup name) := by
  rw [isSlotName, Bool.and_eq_true] at h
  obtain ⟨hhead, hends⟩ := h
  have hfirst : name.takeWhile (fun c => c ≠ '.' && c ≠ '[') = name := by
    refine List.takeWhile_eq_self_iff.2 fun c hc => ?_
    have hend := List.all_eq_true.1 hends c hc
    simp [isNameEnd] at hend
    simp [hend]
  cases name with
  | nil => cases hhead
  | cons c name =>
    have hdigit : Text.isDecimalDigit c = false := by simpa using hhead
    simp only [resolve, hfirst, readNumber_of_head hdigit]
    simp [bind, Except.bind, access]

/-- Literal characters are copied. -/
theorem fill_literal {pieces : List Piece} :
    fill lookup expand (text.map (fun c => .literal [c]) ++ pieces) =
      (fill lookup expand pieces).map (text ++ ·) := by
  induction text with
  | nil =>
    rw [List.map_nil, List.nil_append]
    cases fill lookup expand pieces <;> rfl
  | cons c text ih =>
    rw [List.map_cons, List.cons_append, fill, ih]
    cases fill lookup expand pieces <;> rfl

/-- A plain slot is replaced by what is looked up for its name. -/
theorem fill_slot {pieces : List Piece} (h : isSlotName name = true) :
    fill lookup expand (.slot name none [] :: pieces) =
      (fill lookup expand pieces).map (lookup name ++ ·) := by
  rw [fill, resolve_of_isSlotName h]
  cases fill lookup expand pieces <;> rfl

/-- The parts of a template are filled one after the other. -/
theorem fill_pieces {segments : List Segment}
    (hnames : ∀ name, .slot name ∈ segments → isSlotName name = true) :
    fill lookup expand (segments.flatMap Segment.pieces) = .ok (filled lookup segments) := by
  induction segments with
  | nil => rfl
  | cons segment segments ih =>
    have hrest := ih fun name hname => hnames name (List.mem_cons_of_mem _ hname)
    cases segment with
    | literal text =>
      rw [List.flatMap_cons, Segment.pieces, fill_literal, hrest]
      rfl
    | slot name =>
      rw [List.flatMap_cons, Segment.pieces, List.singleton_append,
        fill_slot (hnames name (by simp)), hrest]
      rfl

/-- **A written template is formatted in one pass**: literal texts stand as they are, and slots are
filled. -/
theorem format_source {segments : List Segment}
    (hnames : ∀ name, .slot name ∈ segments → isSlotName name = true) :
    format lookup (source segments) = .ok (filled lookup segments) := by
  rw [format, formatWithin, pieces, piecesWithin_source hnames (Nat.le_refl _),
    fill_pieces hnames]

end RecordRules.Template
