import RecordRules.Proofs.Declaration.Parse

/-!
# Writing and reading declarations

`Declaration.encode` writes invocations as one declaration. A declaration that is read is written
back as it was, character by character (`encode_of_parseRules_eq_ok`). The other way round there is
one exception: a backslash at the end of a rule takes the pipe after it for an escape, so that
invocations are read back exactly when no rule but the last ends in a backslash
(`parseRules_encode_eq_ok_iff`).
-/

namespace RecordRules

namespace Declaration

variable {b : Bool} {t : List Char} {texts : List (List Char)}

/-- The declaration of invocations: their texts with a backslash before each pipe, and pipes between
the texts. -/
def encode (invocations : List Invocation) : String :=
  .ofList (Text.joinWith '|' (invocations.map fun i => escape i.declaration.toList))

/-- Encoding joins the escaped declarations with bars. -/
theorem toList_encode (invocations : List Invocation) :
    (encode invocations).toList =
      Text.joinWith '|' ((invocations.map (·.declaration.toList)).map escape) := by
  simp [encode, Function.comp_def]

/-- A rule with a name has a text. -/
theorem toList_declaration_ne_nil {i : Invocation} (h : i.name ≠ "") :
    i.declaration.toList ≠ [] := by
  rw [toList_declaration i.name i.param]
  simp [h]

/-- Rules of which the first has a name have a declaration. -/
theorem encode_cons_ne_empty {i : Invocation} (rest : List Invocation) (h : i.name ≠ "") :
    encode (i :: rest) ≠ "" := by
  have hi := mt escape_eq_nil_iff.1 (toList_declaration_ne_nil h)
  rw [Ne, ← String.toList_eq_nil_iff, toList_encode]
  cases rest <;> simp [Text.joinWith, hi]

/-! ## Segments of what was written -/

/-- The pipe behind an escaped text separates unless the text ends in a backslash, which makes the
pipe part of the segment. -/
theorem segments_escape_append (ht : t ≠ []) (v : List Char) :
    segments b (escape t ++ '|' :: v) =
      if t.getLast? = some '\\' then (segments false v).modifyHead (escape t ++ ['|'] ++ ·)
      else escape t :: segments false v := by
  rw [segments_append (segments_escape b t), endsEscaped_of_ne_nil b (mt escape_eq_nil_iff.1 ht),
    getLast?_escape]
  by_cases h : t.getLast? = some '\\'
  · rw [if_pos h, beq_iff_eq.2 h, segments_cons (by simp), List.modifyHead_modifyHead]
    simp only [Function.comp_def, List.append_assoc]
    rfl
  · rw [if_neg h, beq_eq_false_iff_ne.2 h, segments_separator]
    simp

/-- The segments of joined texts are the texts if none but the last ends in a backslash. -/
theorem segments_joinWith_escape (hne : texts ≠ []) (htexts : ∀ t ∈ texts, t ≠ [])
    (h : ∀ t ∈ texts.dropLast, t.getLast? ≠ some '\\') :
    segments false (Text.joinWith '|' (texts.map escape)) = texts.map escape := by
  induction texts with
  | nil => exact absurd rfl hne
  | cons t rest ih =>
    cases rest with
    | nil => exact segments_escape false t
    | cons u rest =>
      rw [List.dropLast_cons_cons] at h
      have hrest : segments false (Text.joinWith '|' ((u :: rest).map escape)) =
          (u :: rest).map escape :=
        ih (by simp) (fun v hv => htexts v (by simp [hv])) (fun v hv => h v (by simp [hv]))
      rw [List.map_cons, Text.joinWith_cons _ (by simp), segments_escape_append (htexts t (by simp)),
        if_neg (h t (by simp)), hrest]

/-- Joined texts have one segment more than there are texts before the last one that end in
another character than a backslash. -/
theorem length_segments_joinWith_escape (hne : texts ≠ []) (htexts : ∀ t ∈ texts, t ≠ []) :
    (segments false (Text.joinWith '|' (texts.map escape))).length =
      texts.dropLast.countP (·.getLast? != some '\\') + 1 := by
  induction texts with
  | nil => exact absurd rfl hne
  | cons t rest ih =>
    cases rest with
    | nil => simp [Text.joinWith, segments_escape]
    | cons u rest =>
      have hrest := ih (by simp) (fun v hv => htexts v (by simp [hv]))
      rw [List.map_cons, Text.joinWith_cons _ (by simp), segments_escape_append (htexts t (by simp)),
        List.dropLast_cons_cons, List.countP_cons]
      by_cases h : t.getLast? = some '\\'
      · rw [if_pos h, List.length_modifyHead, hrest]
        simp [h]
      · rw [if_neg h, List.length_cons, hrest]
        simp [h]

/-- If there are as many segments as there are texts, then no text but the last ends in a backslash:
each that does costs a segment. -/
theorem getLast?_ne_of_length_segments (hne : texts ≠ []) (htexts : ∀ t ∈ texts, t ≠ [])
    (h : (segments false (Text.joinWith '|' (texts.map escape))).length = texts.length) :
    ∀ t ∈ texts.dropLast, t.getLast? ≠ some '\\' := by
  have hlength : texts.dropLast.length + 1 = texts.length := by
    rw [List.length_dropLast]
    exact Nat.sub_add_cancel (List.length_pos_iff.2 hne)
  rw [length_segments_joinWith_escape hne htexts, ← hlength] at h
  simpa using List.countP_eq_length.1 (Nat.succ.inj h)

end Declaration

open Declaration

/-! ## The two round trips -/

/-- **Writing, then reading.** Invocations with usable names are read back from their declaration
exactly when no rule but the last ends in a backslash. -/
theorem parseRules_encode_eq_ok_iff {invocations : List Invocation}
    (hnames : ∀ i ∈ invocations, i.name ≠ "" ∧ ',' ∉ i.name.toList) :
    parseRules (encode invocations) = .ok invocations ↔
      ∀ i ∈ invocations.dropLast, i.declaration.toList.getLast? ≠ some '\\' := by
  cases invocations with
  | nil => simp [encode, Text.joinWith, parseRules]
  | cons i rest =>
    have htexts : ∀ t ∈ (i :: rest).map (·.declaration.toList), t ≠ [] := by
      intro t ht
      obtain ⟨j, hj, rfl⟩ := List.mem_map.1 ht
      exact toList_declaration_ne_nil (hnames j hj).1
    have hlast : (∀ j ∈ (i :: rest).dropLast, j.declaration.toList.getLast? ≠ some '\\') ↔
        ∀ t ∈ ((i :: rest).map (·.declaration.toList)).dropLast, t.getLast? ≠ some '\\' := by
      rw [← List.map_dropLast, List.forall_mem_map]
    rw [parseRules_eq_ok_iff (encode_cons_ne_empty rest (hnames i (by simp)).1), toList_encode, hlast]
    constructor
    · intro h
      -- Each backslash before the last text costs a segment, so already the number of them tells.
      have hlen := h.length_eq
      rw [length_segments_joinWith_escape (by simp) htexts] at hlen
      have hcount := List.countP_eq_length.1 (Nat.succ.inj (hlen.trans (by simp)))
      simpa using hcount
    · intro h
      rw [segments_joinWith_escape (by simp) htexts h, List.map_map, List.forall₂_map_left_iff,
        List.forall₂_same]
      intro j hj
      rw [Function.comp_apply, unescape_escape]
      exact invocation?_eq_some_iff.2 ⟨(hnames j hj).1, (hnames j hj).2, rfl⟩

/-- The rules end in a pipe and in a backslash, which is harmless at the very end. -/
theorem parseRules_encode_pipes :
    (∀ i ∈ [⟨"a|b", some ",\\|"⟩, ⟨"c", some "|\\"⟩], Invocation.name i ≠ "" ∧ ',' ∉ i.name.toList) ∧
      parseRules (encode [⟨"a|b", some ",\\|"⟩, ⟨"c", some "|\\"⟩]) =
        .ok [⟨"a|b", some ",\\|"⟩, ⟨"c", some "|\\"⟩] :=
  ⟨by decide, (parseRules_encode_eq_ok_iff (by decide)).2 (by decide)⟩

/-- A backslash at the end of a rule takes the next rule into the parameter. -/
example : parseRules (encode [⟨"a", some "\\"⟩, ⟨"b", none⟩]) = .ok [⟨"a", some "|b"⟩] := rfl

/-- A declaration that is read is the one that is written for its invocations. -/
theorem encode_eq_of_parseRules_eq_ok {d : String} {invocations : List Invocation}
    (h : parseRules d = .ok invocations) : encode invocations = d := by
  by_cases hd : d = ""
  · subst hd
    cases h
    rfl
  have hsegments := (List.forall₂_and_left _ _).2
    ⟨fun t ht => segments_of_mem_segments ht, (parseRules_eq_ok_iff hd).1 h⟩
  have htexts : List.Forall₂ (fun t i => t = escape i.declaration.toList)
      (segments false d.toList) invocations :=
    hsegments.imp fun t i ⟨ht, hi⟩ => by
      rw [(invocation?_eq_some_iff.1 hi).2.2, escape_unescape ht (head?_ne_of_segments ht)]
  rw [← List.forall₂_map_right_iff, List.forall₂_eq_eq_eq] at htexts
  rw [encode, ← htexts, joinWith_segments, String.ofList_toList]

/-- **Reading, then writing.** A declaration that is read is written back as it was, character by
character; so no two declarations are read as the same invocations. -/
theorem encode_of_parseRules {d : String} {invocations : List Invocation}
    (h : parseRules d = .ok invocations) :
    encode invocations = d ∧ ∀ d', parseRules d' = .ok invocations → d' = d := by
  have hd := encode_eq_of_parseRules_eq_ok h
  exact ⟨hd, fun d' h' => (encode_eq_of_parseRules_eq_ok h').symm.trans hd⟩

/-- Names made of escaped pipes, empty parameters, a backslash before an escape and a rule that
occurs twice. -/
theorem encode_of_parseRules_escapes :
    parseRules "\\|,|a, \\\\|\\|,|a, \\\\|\\|," =
        .ok [⟨"|", some ""⟩, ⟨"a", some " \\||,"⟩, ⟨"a", some " \\||,"⟩] ∧
      encode [⟨"|", some ""⟩, ⟨"a", some " \\||,"⟩, ⟨"a", some " \\||,"⟩] =
        "\\|,|a, \\\\|\\|,|a, \\\\|\\|," :=
  ⟨rfl, (encode_of_parseRules rfl).1⟩

end RecordRules
