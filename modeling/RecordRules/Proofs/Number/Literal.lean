import RecordRules.Proofs.Number.Spelling
import RecordRules.Proofs.Text.Split

/-!
# The grammar of integers in parameters

An integer is written with a sign and groups of decimal digits, of any script, that single underscores
separate (`Number.Literal`). Reading integers accepts these texts, in white space or not, unless they have
too many digits, and no others (`Number.readInteger?_eq_some_iff`). The reader goes from character to
character; that the groups are the pieces between the underscores is
`Number.groupedDigits?_eq_some_iff`. Every integer is read from its own text, up to the limit
(`Number.readInteger?_integerText`).
-/

namespace RecordRules

/-- An integer as it is written: a sign and groups of decimal digits with single underscores between
them. There is a group, and no group is empty. -/
structure Number.Literal where
  sign : Sign
  groups : List (List Char)
  groups_ne_nil : groups ≠ []
  group_ne_nil : ∀ group ∈ groups, group ≠ []
  isDecimalDigit : ∀ group ∈ groups, ∀ c ∈ group, Text.isDecimalDigit c = true

namespace Number.Literal

/-- The characters of an integer. -/
def text (w : Literal) : List Char := w.sign.text ++ ['_'].intercalate w.groups

/-- The digits of an integer. -/
def digits (w : Literal) : List Char := w.groups.flatten

/-- The integer that is written. -/
def val (w : Literal) : Int :=
  signed w.sign.isNegative (ofDigits (w.digits.filterMap Text.digitValue?))

end Number.Literal

/-! ## Groups of digits -/

namespace Number

section
variable {after : Bool} {c : Char} {s : List Char} {ds : List Nat} {groups : List (List Char)}

/-- The pieces of a text that must not be empty: all of them or, right after a digit, all but the first. -/
def neededGroups (after : Bool) (s : List Char) : List (List Char) :=
  if after then (Text.splitAll '_' s).tail else Text.splitAll '_' s

/-- Grouped digits are read from a text of digits and underscores if no needed piece is empty. -/
theorem groupedDigits?_eq_some_iff : groupedDigits? after s = some ds ↔
    (∀ group ∈ neededGroups after s, group ≠ []) ∧
      (∀ c ∈ s, c ≠ '_' → Text.isDecimalDigit c = true) ∧ s.filterMap Text.digitValue? = ds := by
  induction s generalizing after ds with
  | nil => cases after <;> simp [groupedDigits?, neededGroups, Text.splitAll]
  | cons c s ih =>
    by_cases hc : c = '_'
    · subst hc
      have hnone : Text.digitValue? '_' = none := by decide
      cases after with
      | false => simp [groupedDigits?, neededGroups, Text.splitAll]
      | true => simp [groupedDigits?, neededGroups, Text.splitAll, ih, hnone]
    · -- The character is in the first piece, so of the rest of the text only the later ones are needed.
      obtain ⟨first, rest, hsplit⟩ := List.exists_cons_of_ne_nil (Text.splitAll_ne_nil '_' s)
      have hneeded (b : Bool) : (∀ group ∈ neededGroups b (c :: s), group ≠ []) ↔
          ∀ group ∈ neededGroups true s, group ≠ [] := by
        cases b <;> simp [neededGroups, Text.splitAll, hc, hsplit]
      rw [groupedDigits?, if_neg (by simpa using hc), hneeded]
      cases hdigit : Text.digitValue? c with
      | none => simp [Text.isDecimalDigit, hdigit, hc]
      | some d =>
        have hvalues : (c :: s).filterMap Text.digitValue? = d :: s.filterMap Text.digitValue? :=
          List.filterMap_cons_some hdigit
        have hall : (∀ x ∈ c :: s, x ≠ '_' → Text.isDecimalDigit x = true) ↔
            ∀ x ∈ s, x ≠ '_' → Text.isDecimalDigit x = true := by
          simp [Text.isDecimalDigit, hdigit]
        rw [hvalues, hall]
        show (groupedDigits? true s).map (d :: ·) = some ds ↔ _
        rw [Option.map_eq_some_iff]
        constructor
        · rintro ⟨es, hread, rfl⟩
          obtain ⟨hgroups, hdigits, hes⟩ := ih.1 hread
          exact ⟨hgroups, hdigits, congrArg (d :: ·) hes⟩
        · rintro ⟨hgroups, hdigits, rfl⟩
          exact ⟨_, ih.2 ⟨hgroups, hdigits, rfl⟩, rfl⟩

/-- Underscores have no value. -/
theorem filterMap_intercalate :
    (['_'].intercalate groups).filterMap Text.digitValue? =
      groups.flatten.filterMap Text.digitValue? := by
  have hnone : Text.digitValue? '_' = none := by decide
  induction groups with
  | nil => rfl
  | cons group groups ih =>
    cases groups with
    | nil => simp
    | cons next groups =>
      rw [List.intercalate_cons_cons, List.filterMap_append, List.filterMap_append, ih,
        List.flatten_cons, List.filterMap_append]
      simp [hnone]

/-- A digit is neither an underscore nor a sign. -/
theorem ne_of_isDecimalDigit (h : Text.isDecimalDigit c = true) : c ≠ '_' ∧ c ≠ '+' ∧ c ≠ '-' := by
  refine ⟨?_, ?_, ?_⟩ <;> rintro rfl <;> exact absurd h (by decide)

/-- Every decimal digit has a value. -/
theorem length_filterMap_digitValue? (h : ∀ c ∈ s, Text.isDecimalDigit c = true) :
    (s.filterMap Text.digitValue?).length = s.length := by
  induction s with
  | nil => rfl
  | cons c s ih =>
    obtain ⟨d, hd⟩ := Option.isSome_iff_exists.1 (h c (by simp))
    rw [List.filterMap_cons_some hd, List.length_cons, List.length_cons,
      ih fun x hx => h x (by simp [hx])]

end

/-! ## Reading what is written -/

namespace Literal

variable {w : Literal} {c : Char}

/-- The digits of a literal are digits. -/
theorem isDecimalDigit_of_mem (h : c ∈ w.digits) : Text.isDecimalDigit c = true := by
  obtain ⟨group, hgroup, hc⟩ := List.mem_flatten.1 h
  exact w.isDecimalDigit group hgroup c hc

/-- After the sign there are digits and underscores. -/
theorem of_mem_intercalate (h : c ∈ ['_'].intercalate w.groups) :
    c = '_' ∨ Text.isDecimalDigit c = true := by
  refine (Text.mem_of_mem_intercalate h).imp_right ?_
  rintro ⟨group, hgroup, hc⟩
  exact w.isDecimalDigit group hgroup c hc

/-- The sign of a literal is taken off its groups. -/
theorem splitSign_text (w : Literal) :
    splitSign w.text = (w.sign.isNegative, ['_'].intercalate w.groups) := by
  refine w.sign.splitSign_text fun c hc => ?_
  rcases of_mem_intercalate (List.mem_of_mem_head? hc) with rfl | hdigit
  · decide
  · exact (ne_of_isDecimalDigit hdigit).2

/-- The groups are read as the digits in them. -/
theorem groupedDigits?_intercalate (w : Literal) :
    groupedDigits? false (['_'].intercalate w.groups) = some (w.digits.filterMap Text.digitValue?) := by
  have hsplit : Text.splitAll '_' (['_'].intercalate w.groups) = w.groups :=
    Text.splitAll_intercalate w.groups_ne_nil fun group hgroup hmem =>
      (ne_of_isDecimalDigit (w.isDecimalDigit group hgroup '_' hmem)).1 rfl
  rw [groupedDigits?_eq_some_iff]
  refine ⟨?_, fun c hc hne => (of_mem_intercalate hc).resolve_left hne, filterMap_intercalate⟩
  show ∀ group ∈ Text.splitAll '_' (['_'].intercalate w.groups), group ≠ []
  rw [hsplit]
  exact w.group_ne_nil

end Literal

/-- Grouped digits without a sign are those of an integer. -/
theorem exists_literal {body : List Char} {ds : List Nat} (sign : Sign)
    (h : groupedDigits? false body = some ds) :
    ∃ w : Literal, w.text = sign.text ++ body ∧ w.sign = sign ∧
      w.digits.filterMap Text.digitValue? = ds := by
  obtain ⟨hgroups, hdigits, hvalues⟩ := groupedDigits?_eq_some_iff.1 h
  have hjoin : ['_'].intercalate (Text.splitAll '_' body) = body := by
    rw [← Text.joinWith_eq_intercalate, Text.joinWith_splitAll]
  refine ⟨{ sign, groups := Text.splitAll '_' body
            groups_ne_nil := Text.splitAll_ne_nil '_' body
            group_ne_nil := hgroups
            isDecimalDigit := fun group hgroup c hc => ?_ }, ?_, rfl, ?_⟩
  · obtain ⟨hmem, hne⟩ := Text.mem_of_mem_splitAll hgroup hc
    exact hdigits c hmem hne
  · rw [Literal.text, hjoin]
  · rw [Literal.digits, ← filterMap_intercalate, hjoin, hvalues]

/-- **The integers that are read** are the written ones, in white space or not, with digits up to the
limit. -/
theorem readInteger?_eq_some_iff {s : List Char} {n : Int} : readInteger? s = some n ↔
    ∃ w : Literal, w.text = Text.trim s ∧ w.digits.length ≤ digitLimit ∧ w.val = n := by
  constructor
  · intro h
    obtain ⟨sign, htrim, hsign⟩ := Sign.exists_splitSign (Text.trim s)
    cases hread : groupedDigits? false (splitSign (Text.trim s)).2 with
    | none => simp [readInteger?, hread] at h
    | some ds =>
      obtain ⟨w, htext, rfl, hvalues⟩ := exists_literal sign hread
      have hlength : ds.length = w.digits.length := by
        rw [← hvalues, length_filterMap_digitValue? fun c => Literal.isDecimalDigit_of_mem]
      simp only [readInteger?, hread, hsign, Option.ite_none_right_eq_some, Option.some.injEq] at h
      refine ⟨w, by rw [htext, ← htrim], hlength ▸ h.1, ?_⟩
      rw [Literal.val, hvalues, h.2]
  · rintro ⟨w, htext, hlength, rfl⟩
    have hlimit : (w.digits.filterMap Text.digitValue?).length ≤ digitLimit := by
      rwa [length_filterMap_digitValue? fun c => Literal.isDecimalDigit_of_mem]
    simp only [readInteger?, ← htext, w.splitSign_text, w.groupedDigits?_intercalate, if_pos hlimit]
    rfl

/-! ## The text of an integer -/

/-- The value of an ASCII digit is its place after zero. -/
theorem digitValue?_of_isDigit {c : Char} (h : c.isDigit = true) :
    Text.digitValue? c = some (c.toNat - '0'.toNat) := by
  have hrange : 48 ≤ c.toNat ∧ c.toNat ≤ 57 := Char.isDigit_iff_toNat.1 h
  -- The digits of ASCII are the first in the table.
  rw [Text.digitValue?, Text.digitZeros, List.find?_cons_of_pos]
  · rfl
  · simp only [Bool.and_eq_true, decide_eq_true_eq]
    omega

/-- Digits without underscores are a group. -/
theorem groupedDigits?_of_isDigit {ds : List Char} (hne : ds ≠ []) (h : ∀ c ∈ ds, c.isDigit = true) :
    groupedDigits? false ds = some (Numeral.values ds) := by
  have hdigit : ∀ c ∈ ds, Text.isDecimalDigit c = true := fun c hc => by
    rw [Text.isDecimalDigit, digitValue?_of_isDigit (h c hc)]
    rfl
  have hvalues : ds.filterMap Text.digitValue? = Numeral.values ds := by
    rw [Numeral.values, ← List.filterMap_eq_map]
    exact List.filterMap_congr fun c hc => digitValue?_of_isDigit (h c hc)
  rw [groupedDigits?_eq_some_iff]
  refine ⟨?_, fun c hc _ => hdigit c hc, hvalues⟩
  show ∀ group ∈ Text.splitAll '_' ds, group ≠ []
  rw [Text.splitAll_of_not_mem fun hmem => (ne_of_isDecimalDigit (hdigit _ hmem)).1 rfl]
  intro group hgroup
  rwa [List.mem_singleton.1 hgroup]

/-- An integer is read from its text, unless that has too many digits. -/
theorem readInteger?_integerText (n : Int) : readInteger? (integerText n).toList =
    if digitCount n.natAbs ≤ digitLimit then some n else none := by
  have hdigits : ∀ c ∈ written n.natAbs, c.isDigit = true := fun c => isDigit_of_mem_written
  have hread : groupedDigits? false (written n.natAbs) = some (Numeral.values (written n.natAbs)) :=
    groupedDigits?_of_isDigit Nat.toDigits_ne_nil hdigits
  have hval : ofDigits (Numeral.values (written n.natAbs)) = n.natAbs := by
    rw [Numeral.ofDigits_values]
    exact Nat.ofDigitChars_toDigits (by decide) (by decide)
  have hlength : (Numeral.values (written n.natAbs)).length = digitCount n.natAbs := List.length_map _
  rw [readInteger?, Text.trim_integerText, splitSign_integerText]
  simp only [hread, hval, hlength, signed_natAbs]

end Number

end RecordRules
