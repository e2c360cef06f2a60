import Mathlib.Tactic.SplitIfs
import RecordRules.Proofs.Traversal
import RecordRules.Value.Text

/-!
# Shown values

Whatever a value holds, its text in tables and messages has no control characters
(`Value.isClear_shownIn`): quoted text escapes them, and everything else is written in characters that move
no cursor. Sequences of clear texts are clear; this carries the property from the parts of a value to the
whole.

A value has a text unless one of its parts has none: a part for which there is no room, or one with a number
that has too many digits (`Value.raises_shownIn_iff`).
-/

namespace RecordRules

/-- A text has no control characters of ASCII. -/
def Text.IsClear (s : List Char) : Prop := ∀ c ∈ s, 0x20 ≤ c.toNat

instance : DecidablePred Text.IsClear := fun _ => List.decidableBAll _ _

namespace Text

variable {s t : List Char} {c : Char} {base n : Nat}

/-! ## Parts of clear texts -/

@[simp] theorem isClear_nil : IsClear [] := List.forall_mem_nil _

@[simp] theorem isClear_cons : IsClear (c :: s) ↔ 0x20 ≤ c.toNat ∧ IsClear s := List.forall_mem_cons

@[simp] theorem isClear_append : IsClear (s ++ t) ↔ IsClear s ∧ IsClear t := List.forall_mem_append

/-- A text with no other characters than a clear one is clear. -/
theorem IsClear.of_subset (hs : IsClear s) (h : t ⊆ s) : IsClear t := fun c hc => hs c (h hc)

/-- The start of a clear text is clear. -/
theorem IsClear.take (hs : IsClear s) (n : Nat) : IsClear (s.take n) :=
  hs.of_subset (List.take_subset n s)

/-- So is its end. -/
theorem IsClear.drop (hs : IsClear s) (n : Nat) : IsClear (s.drop n) :=
  hs.of_subset (List.drop_subset n s)

/-- Clear pieces with a clear separator between them. -/
theorem IsClear.intercalate {pieces : List (List Char)} (hs : IsClear s)
    (h : ∀ piece ∈ pieces, IsClear piece) : IsClear (s.intercalate pieces) := by
  induction pieces with
  | nil => simp
  | cons piece pieces ih =>
    obtain ⟨hpiece, hpieces⟩ := List.forall_mem_cons.1 h
    cases pieces with
    | nil => simpa using hpiece
    | cons next pieces =>
      rw [List.intercalate_cons_cons, isClear_append, isClear_append]
      exact ⟨⟨hpiece, hs⟩, ih hpieces⟩

/-- Joining clear texts with a clear separator gives a clear text. -/
theorem isClear_intercalate {separator : String} {texts : List String}
    (hseparator : IsClear separator.toList) (h : ∀ text ∈ texts, IsClear text.toList) :
    IsClear (separator.intercalate texts).toList := by
  rw [String.toList_intercalate]
  exact hseparator.intercalate (List.forall_mem_map.2 h)

/-! ## Numbers -/

/-- Digits up to `f` are no control characters. -/
theorem isClear_digitChar (h : n < 16) : 0x20 ≤ (Nat.digitChar n).toNat := by
  have hall : ∀ n < 16, 0x20 ≤ (Nat.digitChar n).toNat := by decide
  exact hall n h

/-- The digits of a number are clear in every base up to the hexadecimal one. -/
theorem isClear_toDigits (hbase : 1 < base) (hle : base ≤ 16) : IsClear (Nat.toDigits base n) := by
  induction n using Nat.strongRecOn with
  | _ n ih =>
    rw [Nat.toDigits_eq_if hbase]
    split
    · next hn => simp [isClear_digitChar (show n < 16 by omega)]
    · next hn =>
      have hlt : n / base < n := Nat.div_lt_self (by omega) hbase
      have hmod : n % base < base := Nat.mod_lt n (by omega)
      simp [ih _ hlt, isClear_digitChar (show n % base < 16 by omega)]

/-- A natural number is written in digits. -/
theorem isClear_repr (n : Nat) : IsClear n.repr.toList := by
  rw [Nat.toList_repr]
  exact isClear_toDigits (by decide) (by decide)

/-- The zeros of a padding are clear. -/
theorem isClear_zeros (n : Nat) : IsClear (List.replicate n '0') := by
  intro c hc
  rw [List.eq_of_mem_replicate hc]
  decide

/-! ## Quoted text -/

/-- Both quotation marks are clear. -/
theorem isClear_quoteFor (s : List Char) : 0x20 ≤ (quoteFor s).toNat := by
  rw [quoteFor]
  split <;> decide

/-- A printable character is no control character. -/
theorem le_of_isPrintable (h : isPrintable c = true) : 0x20 ≤ c.toNat := by
  by_contra hc
  rw [isPrintable, unprintables, Ranges.has_cons, if_neg (by omega), if_pos (by omega)] at h
  cases h

/-- An escape is written in ASCII letters and digits. -/
theorem isClear_hexEscape (c : Char) : IsClear (hexEscape c) := by
  have hdigits (width : Nat) : IsClear (hexDigits width c.toNat) := by
    rw [hexDigits, isClear_append]
    exact ⟨isClear_zeros _, isClear_toDigits (by decide) (by decide)⟩
  rw [hexEscape]
  split_ifs <;> simp [hdigits]

/-- Between quotes every character is clear. -/
theorem isClear_quoteChar {quote : Char} (hquote : 0x20 ≤ quote.toNat) (c : Char) :
    IsClear (quoteChar quote c) := by
  rw [quoteChar]
  split_ifs with h _ _ _ hprintable
  · rw [Bool.or_eq_true, beq_iff_eq, beq_iff_eq] at h
    rcases h with rfl | rfl <;> simp [hquote]
  · decide
  · decide
  · decide
  · simpa using le_of_isPrintable hprintable
  · exact isClear_hexEscape c

/-- A quoted text is clear whatever the text is: what is not printable is escaped. -/
theorem isClear_quoted (s : String) : IsClear (quoted s).toList := by
  rw [quoted, String.toList_ofList, quoteChars]
  simp only [isClear_append, isClear_cons, isClear_nil, and_true, isClear_quoteFor, true_and]
  intro c hc
  obtain ⟨d, -, hc⟩ := List.mem_flatMap.1 hc
  exact isClear_quoteChar (isClear_quoteFor _) d c hc

end Text

open Text

/-! ## Floating point and decimal numbers -/

section
variable {ds : List Char}

/-- A number with its decimal point in place. -/
theorem FloatStyle.isClear_positional (hds : IsClear ds) (place : Int) : IsClear (positional ds place) := by
  rw [positional]
  split_ifs
  · simp only [isClear_append]
    exact ⟨⟨by decide, isClear_zeros _⟩, hds⟩
  · simp only [isClear_append]
    exact ⟨⟨hds, isClear_zeros _⟩, by decide⟩
  · rw [isClear_append, isClear_cons]
    exact ⟨hds.take _, by decide, hds.drop _⟩

/-- A number with an exponent. -/
theorem FloatStyle.isClear_scientific (style : FloatStyle) (hds : IsClear ds) (lead : Int) :
    IsClear (scientific style ds lead) := by
  unfold scientific
  rw [isClear_append, isClear_cons, isClear_cons, isClear_append]
  refine ⟨?_, by decide, ?_, isClear_zeros _, isClear_repr _⟩
  · split
    · rw [isClear_cons] at hds
      exact isClear_cons.2 ⟨hds.1, isClear_cons.2 ⟨by decide, hds.2⟩⟩
    · exact hds
  · split <;> decide

/-- A number in either style. -/
theorem FloatStyle.isClear_digits (style : FloatStyle) (d : Nat) (p : Int) :
    IsClear (digits style d p) := by
  rw [digits]
  split
  · exact isClear_positional (isClear_repr d) _
  · exact isClear_scientific style (isClear_repr d) _

/-- A binary number, `inf` and `nan` included. -/
theorem Binary64.isClear_text (x : Binary64) : IsClear x.text.toList := by
  cases x with
  | nan => decide
  | infinite negative => cases negative <;> decide
  | finite negative m e =>
    rw [text, FloatStyle.text, String.toList_ofList]
    generalize shortest m e = digits
    have hbody : IsClear (if m = 0 then "0.0".toList
        else FloatStyle.digits .plain digits.1 digits.2) := by
      split
      · decide
      · exact FloatStyle.isClear_digits _ _ _
    split
    · exact isClear_cons.2 ⟨by decide, hbody⟩
    · exact hbody

/-- A finite decimal number. -/
theorem Decimal.isClear_finiteText (coefficient : Nat) (exponent : Int) :
    IsClear (finiteText coefficient exponent).toList := by
  have hds := isClear_repr coefficient
  rw [finiteText]
  generalize coefficient.repr.toList = ds at hds
  generalize (if exponent ≤ 0 ∧ exponent + (ds.length : Int) > -6 then exponent + (ds.length : Int)
    else 1) = place
  split
  next whole fraction hparts =>
    have hclear : IsClear whole ∧ IsClear fraction := by
      split_ifs at hparts
      · cases hparts
        rw [List.cons_append, isClear_cons, isClear_append]
        exact ⟨by decide, by decide, isClear_zeros _, hds⟩
      · cases hparts
        exact ⟨isClear_append.2 ⟨hds, isClear_zeros _⟩, isClear_nil⟩
      · cases hparts
        exact ⟨hds.take _, isClear_cons.2 ⟨by decide, hds.drop _⟩⟩
    rw [String.toList_append, String.toList_ofList, isClear_append, isClear_append]
    refine ⟨hclear, ?_⟩
    split
    · decide
    · rw [String.toList_append, String.toList_append, isClear_append, isClear_append]
      refine ⟨⟨by decide, ?_⟩, isClear_repr _⟩
      split <;> decide

/-- Any decimal number. -/
theorem Decimal.isClear_text (d : Decimal) : IsClear d.text.toList := by
  cases d with
  | finite negative coefficient exponent =>
    rw [text, String.toList_append, isClear_append]
    refine ⟨?_, isClear_finiteText _ _⟩
    cases negative <;> decide
  | infinite negative => cases negative <;> decide
  | nan negative signaling payload =>
    rw [text, String.toList_append, String.toList_append, isClear_append, isClear_append]
    refine ⟨⟨?_, ?_⟩, ?_⟩
    · cases negative <;> decide
    · cases signaling <;> decide
    · rw [String.toList_join]
      intro c hc
      obtain ⟨digits, hdigits, hc⟩ := List.mem_flatMap.1 hc
      obtain ⟨n, -, rfl⟩ := List.mem_map.1 hdigits
      exact isClear_repr n c hc

end

/-! ## Values -/

namespace Value

variable {v : Value} {s : String}

/-- An integer that can be shown at all. -/
theorem isClear_shownInt {n : Int} (h : shownInt n = .ok s) : IsClear s.toList := by
  rw [shownInt, Number.integerText?] at h
  split at h
  · next text htext =>
    obtain rfl := Except.ok.inj h
    obtain ⟨-, hinteger⟩ := Option.ite_none_right_eq_some.1 htext
    rw [← Option.some.inj hinteger, Number.integerText]
    split
    · rw [String.toList_append, isClear_append]
      exact ⟨by decide, isClear_repr _⟩
    · exact isClear_repr _
  · cases h

/-- A text that may be missing. -/
theorem isClear_shownText? (text : Option String) : IsClear (shownText? text).toList := by
  cases text with
  | none => decide
  | some text => exact isClear_quoted text

/-- An uploaded file: its name and type are quoted, its size is a number. -/
theorem isClear_shownUpload {u : Upload} (h : shownUpload ", " u = .ok s) : IsClear s.toList := by
  obtain ⟨error, herror, h⟩ := bind_eq_ok_iff.1 h
  obtain ⟨size, hsize, h⟩ := bind_eq_ok_iff.1 h
  obtain rfl := Except.ok.inj h
  refine isClear_intercalate (by decide) ?_
  simp only [List.forall_mem_cons, String.toList_append, isClear_append, and_true,
    isClear_quoted, isClear_shownText?, isClear_shownInt herror, isClear_shownInt hsize]
  decide

/-- A rule with its parameter, both quoted. -/
theorem isClear_shownInvocation (i : Invocation) : IsClear (shownInvocation ", " i).toList := by
  refine isClear_intercalate (by decide) ?_
  simp only [List.forall_mem_cons, String.toList_append, isClear_append, and_true,
    isClear_quoted, isClear_shownText?]
  decide

/-- A distance from UTC. -/
theorem isClear_shownZone (offset : Int) : IsClear (shownZone offset).toList := by
  rw [shownZone]
  split
  · decide
  · simp only [String.toList_append, isClear_append]
    refine ⟨⟨by decide, ?_⟩, by decide⟩
    split
    · simp only [toString, String.toList_append, isClear_append, isClear_repr, and_true]
      decide
    · simp only [toString, String.toList_append, isClear_append, isClear_repr, and_true]
      decide

/-- A moment with its zone. -/
theorem isClear_shownDateTime (t : DateTime) : IsClear (shownDateTime t).toList := by
  unfold shownDateTime
  extract_lets time parts
  rw [String.toList_append, String.toList_append, isClear_append, isClear_append]
  refine ⟨⟨by decide, isClear_intercalate (by decide) ?_⟩, by decide⟩
  intro text htext
  rcases List.mem_append.1 htext with htext | htext
  · obtain ⟨n, -, rfl⟩ := List.mem_map.1 htext
    exact isClear_repr n
  · obtain ⟨offset, -, rfl⟩ := Option.map_eq_some_iff.1 (Option.mem_toList.1 htext)
    rw [String.toList_append, isClear_append]
    exact ⟨by decide, isClear_shownZone offset⟩

/-- The texts of items between brackets. -/
theorem isClear_bracketed {opening closing : String} {texts : List String}
    (hopening : IsClear opening.toList) (hclosing : IsClear closing.toList)
    (htexts : ∀ text ∈ texts, IsClear text.toList) :
    IsClear (opening ++ ", ".intercalate texts ++ closing).toList := by
  rw [String.toList_append, String.toList_append, isClear_append, isClear_append]
  exact ⟨⟨hopening, isClear_intercalate (by decide) htexts⟩, hclosing⟩

/-- A value that is written has room. -/
theorem allowed_of_shownIn {room : Room} {depth : Nat} (h : v.shownIn room depth = .ok s) :
    room depth v = true := by
  unfold shownIn at h
  split at h
  · assumption
  · cases h

mutual

/-- **The text of a value has no control characters**, however much room there is. -/
theorem isClear_shownIn {room : Room} {depth : Nat} {v : Value} {s : String}
    (h : v.shownIn room depth = .ok s) : IsClear s.toList := by
  have hroom := allowed_of_shownIn h
  rw [shownIn.eq_def, if_pos hroom] at h
  clear hroom
  match v, h with
  | .null, h => cases h; decide
  | .bool b, h => cases h; cases b <;> decide
  | .int n, h => exact isClear_shownInt h
  | .float x, h => cases h; exact x.isClear_text
  | .decimal d, h =>
    cases h
    simp only [String.toList_append, isClear_append, d.isClear_text, and_true]
    decide
  | .text s, h => cases h; exact isClear_quoted s
  | .list items, h =>
    obtain ⟨texts, htexts, h⟩ := bind_eq_ok_iff.1 h
    cases h
    exact isClear_bracketed (by decide) (by decide) (isClear_shownItems htexts)
  | .tuple [], h =>
    obtain ⟨texts, htexts, h⟩ := bind_eq_ok_iff.1 h
    cases h
    exact isClear_bracketed (by decide) (by decide) (isClear_shownItems htexts)
  | .tuple [v], h =>
    obtain ⟨s, hs, h⟩ := bind_eq_ok_iff.1 h
    cases h
    simp only [String.toList_append, isClear_append, isClear_shownIn hs, and_true]
    decide
  | .tuple (v :: w :: items), h =>
    obtain ⟨texts, htexts, h⟩ := bind_eq_ok_iff.1 h
    cases h
    exact isClear_bracketed (by decide) (by decide) (isClear_shownItems htexts)
  | .set [], h => cases h; decide
  | .set (v :: items), h =>
    obtain ⟨texts, htexts, h⟩ := bind_eq_ok_iff.1 h
    cases h
    exact isClear_bracketed (by decide) (by decide) (isClear_shownItems htexts)
  | .dict entries, h =>
    obtain ⟨texts, htexts, h⟩ := bind_eq_ok_iff.1 h
    cases h
    exact isClear_bracketed (by decide) (by decide) (isClear_shownEntries htexts)
  | .date d, h =>
    cases h
    simp only [toString, String.toList_append, isClear_append, isClear_repr, and_true]
    decide
  | .datetime t, h => cases h; exact isClear_shownDateTime t
  | .upload u, h =>
    obtain ⟨attributes, hattributes, h⟩ := bind_eq_ok_iff.1 h
    cases h
    simp only [String.toList_append, isClear_append, isClear_shownUpload hattributes, and_true]
    decide
  | .rule i, h =>
    cases h
    simp only [String.toList_append, isClear_append, isClear_shownInvocation i, and_true]
    decide

/-- Every item of a list that can be shown is shown clearly. -/
theorem isClear_shownItems {room : Room} : ∀ {depth : Nat} {items : List Value} {texts : List String},
    shownItems room depth items = .ok texts → ∀ text ∈ texts, IsClear text.toList
  | _, [], _, h => by
    rw [shownItems] at h
    cases h
    exact List.forall_mem_nil _
  | _, v :: items, _, h => by
    rw [shownItems] at h
    obtain ⟨s, hs, h⟩ := bind_eq_ok_iff.1 h
    obtain ⟨texts, htexts, h⟩ := bind_eq_ok_iff.1 h
    cases h
    exact List.forall_mem_cons.2 ⟨isClear_shownIn hs, isClear_shownItems htexts⟩

/-- Every entry of a dictionary that can be shown is shown clearly. -/
theorem isClear_shownEntries {room : Room} : ∀ {depth : Nat} {entries : List (Value × Value)}
    {texts : List String}, shownEntries room depth entries = .ok texts →
    ∀ text ∈ texts, IsClear text.toList
  | _, [], _, h => by
    rw [shownEntries] at h
    cases h
    exact List.forall_mem_nil _
  | _, (k, v) :: entries, _, h => by
    rw [shownEntries] at h
    obtain ⟨key, hkey, h⟩ := bind_eq_ok_iff.1 h
    obtain ⟨value, hvalue, h⟩ := bind_eq_ok_iff.1 h
    obtain ⟨texts, htexts, h⟩ := bind_eq_ok_iff.1 h
    cases h
    refine List.forall_mem_cons.2 ⟨?_, isClear_shownEntries htexts⟩
    simp only [String.toList_append, isClear_append, isClear_shownIn hkey, isClear_shownIn hvalue, and_true]
    decide

end

/-! ## Values without a text -/

/-- A value inside a number of containers has another directly in it, inside so many. The items of a set
count as those of a list inside the set. -/
inductive HasItem (depth : Nat) : Value → Nat → Value → Prop
  | list {items : List Value} {v : Value} (hv : v ∈ items) : HasItem depth (list items) (depth + 1) v
  | tuple {items : List Value} {v : Value} (hv : v ∈ items) : HasItem depth (tuple items) (depth + 1) v
  | set {items : List Value} {v : Value} (hv : v ∈ items) : HasItem depth (set items) (depth + 2) v
  | key {entries : List (Value × Value)} {e : Value × Value} (he : e ∈ entries) :
      HasItem depth (dict entries) (depth + 1) e.1
  | entry {entries : List (Value × Value)} {e : Value × Value} (he : e ∈ entries) :
      HasItem depth (dict entries) (depth + 1) e.2

/-- A value inside a number of containers has another as a part, inside so many: itself, or a part of what
is directly in it. -/
inductive HasPart : Nat → Value → Nat → Value → Prop
  | self {depth : Nat} {v : Value} : HasPart depth v depth v
  | inside {depth k n : Nat} {v w u : Value} (hitem : HasItem depth v k w) (h : HasPart k w n u) :
      HasPart depth v n u

/-- What is directly in a value is smaller. -/
theorem HasItem.sizeOf_lt {depth k : Nat} {v u : Value} (h : HasItem depth v k u) :
    sizeOf u < sizeOf v := by
  cases h with
  | list hv | tuple hv | set hv =>
    have hsize := List.sizeOf_lt_of_mem hv
    simp only [list.sizeOf_spec, tuple.sizeOf_spec, set.sizeOf_spec]
    omega
  | @key entries e he | @entry entries e he =>
    obtain ⟨key, value⟩ := e
    have hsize := List.sizeOf_lt_of_mem he
    rw [Prod.mk.sizeOf_spec] at hsize
    rw [dict.sizeOf_spec]
    dsimp only
    omega

/-- A value is, or has as an attribute, an integer with too many digits to be written. -/
def hasLongNumber : Value → Bool
  | int n => Number.digitLimit < Number.digitCount n.natAbs
  | upload u => Number.digitLimit < Number.digitCount u.error.natAbs ||
      Number.digitLimit < Number.digitCount u.size.natAbs
  | _ => false

/-- A part of a value cannot be written: there is no room for it, or it has a number with too many digits. -/
def LacksText (room : Room) (depth : Nat) (v : Value) : Prop :=
  ∃ k u, HasPart depth v k u ∧ (room k u = false ∨ u.hasLongNumber = true)

/-- Showing an integer raises exactly past the limit on its digits. -/
theorem raises_shownInt {n : Int} :
    Raises (shownInt n) ↔ Number.digitLimit < Number.digitCount n.natAbs := by
  rw [shownInt, Number.integerText?]
  by_cases h : Number.digitCount n.natAbs ≤ Number.digitLimit
  · simp [h]
  · simp [h, Nat.lt_of_not_le h]

/-- Of an uploaded file the status and the size can be too long. -/
theorem raises_shownUpload {separator : String} {u : Upload} :
    Raises (shownUpload separator u) ↔ (upload u).hasLongNumber = true := by
  rw [shownUpload, raises_bind_iff (fun _ => raises_bind_pure), raises_shownInt, raises_shownInt]
  simp [hasLongNumber]

section
variable {room : Room} {depth : Nat} {items : List Value} {entries : List (Value × Value)}

/-- Showing items raises exactly when showing one of them does. -/
theorem raises_shownItems_iff :
    Raises (shownItems room depth items) ↔ ∃ v ∈ items, Raises (shownIn room depth v) := by
  induction items with
  | nil => simp [shownItems]
  | cons v items ih =>
    rw [shownItems, raises_bind_iff (fun _ => raises_bind_pure), ih, List.exists_mem_cons_iff]

/-- Showing entries raises exactly when showing a key or a value does. -/
theorem raises_shownEntries_iff : Raises (shownEntries room depth entries) ↔
    ∃ e ∈ entries, Raises (shownIn room depth e.1) ∨ Raises (shownIn room depth e.2) := by
  induction entries with
  | nil => simp [shownEntries]
  | cons e entries ih =>
    obtain ⟨k, v⟩ := e
    rw [shownEntries, raises_bind_iff (fun _ => raises_bind_iff fun _ => raises_bind_pure), ih,
      List.exists_mem_cons_iff, or_assoc]

/-- Some value directly in another has a property. -/
theorem exists_hasItem_iff {P : Nat → Value → Prop} : (∃ k u, HasItem depth v k u ∧ P k u) ↔
    match v with
    | list items | tuple items => ∃ u ∈ items, P (depth + 1) u
    | set items => ∃ u ∈ items, P (depth + 2) u
    | dict entries => ∃ e ∈ entries, P (depth + 1) e.1 ∨ P (depth + 1) e.2
    | _ => False := by
  cases v with
  | list | tuple | set =>
    constructor
    · rintro ⟨_, u, hitem, h⟩
      cases hitem
      exact ⟨u, ‹_›, h⟩
    · rintro ⟨u, hu, h⟩
      refine ⟨_, u, ?_, h⟩
      constructor
      exact hu
  | dict entries =>
    constructor
    · rintro ⟨_, _, hitem, h⟩
      cases hitem with
      | key he => exact ⟨_, he, .inl h⟩
      | entry he => exact ⟨_, he, .inr h⟩
    · rintro ⟨e, he, h | h⟩
      · exact ⟨_, _, .key he, h⟩
      · exact ⟨_, _, .entry he, h⟩
  | _ =>
    refine iff_of_false ?_ id
    rintro ⟨_, _, ⟨⟩, _⟩

/-- A value has no text if there is no room for it, it has a number with too many digits, or a value
directly in it has no text. -/
theorem raises_shownIn_step : Raises (shownIn room depth v) ↔
    room depth v = false ∨ v.hasLongNumber = true ∨
      ∃ k u, HasItem depth v k u ∧ Raises (shownIn room k u) := by
  rw [exists_hasItem_iff]
  cases hroom : room depth v with
  | false =>
    rw [shownIn.eq_def, hroom]
    simp
  | true =>
    rw [shownIn.eq_def, if_pos hroom]
    match v with
    | .int n => simp [hasLongNumber, raises_shownInt]
    | .upload u => simp [raises_shownUpload]
    | .list items => simp [hasLongNumber, raises_shownItems_iff]
    | .tuple [] => simp [hasLongNumber, shownItems]
    | .tuple [v] => simp [hasLongNumber]
    | .tuple (v :: w :: items) => simp [hasLongNumber, raises_shownItems_iff]
    | .set [] => simp [hasLongNumber]
    | .set (v :: items) => simp [hasLongNumber, raises_shownItems_iff]
    | .dict entries => simp [hasLongNumber, raises_shownEntries_iff]
    | .null | .bool _ | .float _ | .decimal _ | .text _ | .date _ | .datetime _ | .rule _ =>
      simp [hasLongNumber]

/-- A value has no text if one of its parts has none. -/
theorem HasPart.raises {k : Nat} {u : Value} (h : HasPart depth v k u)
    (hraises : Raises (shownIn room k u)) : Raises (shownIn room depth v) := by
  induction h with
  | self => exact hraises
  | inside hitem _ ih => exact raises_shownIn_step.2 (.inr (.inr ⟨_, _, hitem, ih hraises⟩))

/-- A value without a text has a part that cannot be written. The induction is on the size of the value. -/
theorem lacksText_of_raises (h : Raises (shownIn room depth v)) : v.LacksText room depth := by
  induction hsize : sizeOf v using Nat.strongRecOn generalizing depth v with
  | _ size ih =>
    subst hsize
    rcases raises_shownIn_step.1 h with hroom | hlong | ⟨k, w, hitem, hraises⟩
    · exact ⟨depth, v, .self, .inl hroom⟩
    · exact ⟨depth, v, .self, .inr hlong⟩
    · obtain ⟨n, u, hpart, hlacks⟩ := ih _ hitem.sizeOf_lt hraises rfl
      exact ⟨n, u, .inside hitem hpart, hlacks⟩

/-- **A value has no text** if one of its parts cannot be written, and only then. -/
theorem raises_shownIn_iff : Raises (shownIn room depth v) ↔ v.LacksText room depth := by
  refine ⟨lacksText_of_raises, ?_⟩
  rintro ⟨k, u, hpart, hroom | hlong⟩
  · exact hpart.raises (raises_shownIn_step.2 (.inl hroom))
  · exact hpart.raises (raises_shownIn_step.2 (.inr (.inl hlong)))

end

end Value

end RecordRules
