import RecordRules.Declaration
import RecordRules.Proofs.Text.Split

/-!
# Segments of a declaration

A declaration is split at its separating pipes (`Declaration.segments`) and the pieces are put
together again by `Text.joinWith` (`joinWith_segments`). A piece holds no separator, which is said by
`segments b s = [s]`: the piece is its own only segment. What follows such a piece is split as if it
stood alone, except that a backslash at the piece's end reaches over (`segments_append`).

On texts without separators `escape` undoes `unescape` (`escape_unescape`); that `unescape` undoes
`escape` holds of every text (`unescape_escape`).
-/

namespace RecordRules

namespace Text

/-- Joining pieces of which the first one got a text in front puts that text in front. -/
theorem joinWith_modifyHead {sep : Char} (u : List Char) {pieces : List (List Char)}
    (h : pieces ≠ []) : joinWith sep (pieces.modifyHead (u ++ ·)) = u ++ joinWith sep pieces := by
  match pieces, h with
  | [_], _ => rfl
  | _ :: _ :: _, _ => simp [joinWith]

/-- A piece before others is joined to them by a separator. -/
theorem joinWith_cons {sep : Char} (piece : List Char) {pieces : List (List Char)}
    (h : pieces ≠ []) : joinWith sep (piece :: pieces) = piece ++ sep :: joinWith sep pieces := by
  match pieces, h with
  | _ :: _, _ => rfl

end Text

namespace Declaration

variable {b : Bool} {c : Char} {s t u v : List Char}

/-! ## Splitting at separators -/

/-- Every text has a segment. -/
theorem segments_ne_nil (b : Bool) (s : List Char) : segments b s ≠ [] := by
  cases s with
  | nil => simp [segments]
  | cons c rest =>
    rw [segments]
    split
    · simp
    · split <;> simp

/-- A separating pipe ends an empty segment. -/
theorem segments_separator (s : List Char) : segments false ('|' :: s) = [] :: segments false s := by
  simp [segments]

/-- A character that does not separate belongs to the first segment. -/
theorem segments_cons (h : ¬ (c = '|' ∧ b = false)) :
    segments b (c :: s) = (segments (c == '\\') s).modifyHead ([c] ++ ·) := by
  rw [segments, if_neg h]
  cases hs : segments (c == '\\') s with
  | nil => exact absurd hs (segments_ne_nil _ _)
  | cons t ts => rfl

/-- **Splitting loses nothing**: the segments with pipes between them are the text. -/
theorem joinWith_segments (b : Bool) (s : List Char) :
    Text.joinWith '|' (segments b s) = s := by
  induction s generalizing b with
  | nil => rfl
  | cons c s ih =>
    by_cases h : c = '|' ∧ b = false
    · obtain ⟨rfl, rfl⟩ := h
      rw [segments_separator, Text.joinWith_cons _ (segments_ne_nil _ _), ih, List.nil_append]
    · rw [segments_cons h, Text.joinWith_modifyHead _ (segments_ne_nil _ _), ih]
      rfl

/-- A text is its own only segment when its first character does not separate and the rest is its
own only segment. -/
theorem segments_cons_eq_singleton_iff :
    segments b (c :: s) = [c :: s] ↔
      ¬ (c = '|' ∧ b = false) ∧ segments (c == '\\') s = [s] := by
  by_cases h : c = '|' ∧ b = false
  · obtain ⟨rfl, rfl⟩ := h
    simp [segments_separator]
  · rw [segments_cons h]
    cases segments (c == '\\') s <;> simp [h]

/-- A text without a separator does not start with a pipe. -/
theorem head?_ne_of_segments (h : segments false s = [s]) : s.head? ≠ some '|' := by
  cases s with
  | nil => simp
  | cons c s =>
    have := (segments_cons_eq_singleton_iff.1 h).1
    simpa using this

/-- The start of a text without separators has none. -/
theorem segments_of_append (h : segments b (u ++ v) = [u ++ v]) : segments b u = [u] := by
  induction u generalizing b with
  | nil => rfl
  | cons c u ih =>
    obtain ⟨hc, hrest⟩ := segments_cons_eq_singleton_iff.1 h
    exact segments_cons_eq_singleton_iff.2 ⟨hc, ih hrest⟩

/-- No segment holds a separator. -/
theorem segments_of_segments_eq {ts : List (List Char)} (h : segments b s = t :: ts) :
    segments b t = [t] ∧ ∀ u ∈ ts, segments false u = [u] := by
  induction s generalizing b t ts with
  | nil => cases h; simp [segments]
  | cons c s ih =>
    by_cases hc : c = '|' ∧ b = false
    · obtain ⟨rfl, rfl⟩ := hc
      rw [segments_separator] at h
      obtain ⟨rfl, rfl⟩ := List.cons.inj h
      refine ⟨rfl, fun u hu => ?_⟩
      cases hs : segments false s with
      | nil => exact absurd hs (segments_ne_nil _ _)
      | cons v vs =>
        rw [hs] at hu
        obtain ⟨hv, hvs⟩ := ih hs
        rcases List.mem_cons.1 hu with rfl | hu
        exacts [hv, hvs u hu]
    · rw [segments_cons hc] at h
      cases hs : segments (c == '\\') s with
      | nil => exact absurd hs (segments_ne_nil _ _)
      | cons v vs =>
        rw [hs] at h
        obtain ⟨rfl, rfl⟩ := List.cons.inj h
        obtain ⟨hv, hvs⟩ := ih hs
        exact ⟨segments_cons_eq_singleton_iff.2 ⟨hc, hv⟩, hvs⟩

/-- The segments of a whole declaration hold no separator. -/
theorem segments_of_mem_segments (h : t ∈ segments false s) : segments false t = [t] := by
  cases hs : segments false s with
  | nil => exact absurd hs (segments_ne_nil _ _)
  | cons u us =>
    rw [hs] at h
    obtain ⟨hu, hus⟩ := segments_of_segments_eq hs
    rcases List.mem_cons.1 h with rfl | h
    exacts [hu, hus t h]

/-- A text with one segment is that segment. -/
theorem segments_eq_singleton_of_length (h : (segments b s).length = 1) : segments b s = [s] := by
  obtain ⟨t, ht⟩ := List.length_eq_one_iff.1 h
  have hjoin := joinWith_segments b s
  rw [ht, Text.joinWith] at hjoin
  rw [ht, hjoin]

/-- As many segments as texts are one segment for each text. -/
theorem length_segments_of_length_flatMap {texts : List (List Char)}
    (h : (texts.flatMap (segments false)).length = texts.length) :
    ∀ t ∈ texts, (segments false t).length = 1 := by
  have hpos (t : List Char) : 0 < (segments false t).length :=
    List.length_pos_iff.2 (segments_ne_nil false t)
  have hle (texts : List (List Char)) : texts.length ≤ (texts.flatMap (segments false)).length := by
    induction texts with
    | nil => rfl
    | cons t rest ih =>
      have := hpos t
      rw [List.flatMap_cons, List.length_append, List.length_cons]
      omega
  induction texts with
  | nil => simp
  | cons t rest ih =>
    have hfirst := hpos t
    have hrest := hle rest
    rw [List.flatMap_cons, List.length_append, List.length_cons] at h
    exact List.forall_mem_cons.2 ⟨by omega, ih (by omega)⟩

/-- Segments are made of characters of the text. -/
theorem mem_of_mem_segments (ht : t ∈ segments b s) (hc : c ∈ t) : c ∈ s := by
  have hjoin := joinWith_segments b s
  rw [Text.joinWith_eq_intercalate] at hjoin
  rw [← hjoin]
  exact Text.mem_intercalate ht hc

/-! ## Texts one after the other -/

/-- The last character of a text is a backslash; of the empty text, the one before it was. -/
def endsEscaped (escaped : Bool) (s : List Char) : Bool := s.foldl (fun _ c => c == '\\') escaped

/-- Whether a text ends escaped depends on its last character only. -/
theorem endsEscaped_of_ne_nil (b : Bool) (h : s ≠ []) :
    endsEscaped b s = (s.getLast? == some '\\') := by
  obtain ⟨init, c, rfl⟩ := List.eq_nil_or_concat s |>.resolve_left h
  simp [endsEscaped]

/-- What follows a text without separators is split on its own, and its first segment is the rest
of the segment that the text starts. -/
theorem segments_append (h : segments b u = [u]) (v : List Char) :
    segments b (u ++ v) = (segments (endsEscaped b u) v).modifyHead (u ++ ·) := by
  induction u generalizing b with
  | nil =>
    simp only [List.nil_append]
    exact (congrFun List.modifyHead_id _).symm
  | cons c u ih =>
    obtain ⟨hc, hu⟩ := segments_cons_eq_singleton_iff.1 h
    rw [List.cons_append, segments_cons hc, ih hu, List.modifyHead_modifyHead]
    rfl

/-- A pipe that separates whatever stands before it ends the segments of what stands before it. -/
theorem segments_append_separator (h : endsEscaped b u = false) (v : List Char) :
    segments b (u ++ '|' :: v) = segments b u ++ segments false v := by
  induction u generalizing b with
  | nil =>
    obtain rfl : b = false := h
    exact segments_separator v
  | cons c u ih =>
    have hrest := ih (b := c == '\\') h
    rw [List.cons_append]
    by_cases hc : c = '|' ∧ b = false
    · obtain ⟨rfl, rfl⟩ := hc
      rw [segments_separator, segments_separator, List.cons_append]
      exact congrArg _ hrest
    · rw [segments_cons hc, segments_cons hc, hrest]
      cases hs : segments (c == '\\') u with
      | nil => exact absurd hs (segments_ne_nil _ _)
      | cons t ts => rfl

/-! ## Escapes -/

/-- A text is escaped character by character. -/
theorem escape_cons (c : Char) (s : List Char) :
    escape (c :: s) = (if c = '|' then ['\\', '|'] else [c]) ++ escape s := by
  simp [escape]

/-- A text without pipes has nothing to escape. -/
theorem escape_of_not_mem (h : '|' ∉ s) : escape s = s := by
  induction s with
  | nil => rfl
  | cons c s ih =>
    rw [List.mem_cons, not_or] at h
    rw [escape_cons, if_neg (Ne.symm h.1), ih h.2, List.singleton_append]

/-- Escaping adds a character for each pipe. -/
theorem length_escape (s : List Char) : (escape s).length = s.length + s.count '|' := by
  induction s with
  | nil => rfl
  | cons c s ih =>
    rw [escape_cons, List.length_append, ih, List.length_cons, List.count_cons]
    by_cases h : c = '|' <;> simp [h] <;> omega

/-- An escaped text has a character where the text has one. -/
theorem escape_eq_nil_iff : escape s = [] ↔ s = [] := by
  cases s with
  | nil => simp [escape]
  | cons c s => rw [escape_cons]; split <;> simp

/-- An escaped text does not start with a pipe. -/
theorem head?_escape_ne (s : List Char) : (escape s).head? ≠ some '|' := by
  cases s with
  | nil => simp [escape]
  | cons c s => rw [escape_cons]; split <;> simp_all

/-- Escaping keeps the last character. -/
theorem getLast?_escape (s : List Char) : (escape s).getLast? = s.getLast? := by
  rcases List.eq_nil_or_concat s with rfl | ⟨init, c, rfl⟩
  · rfl
  · rw [escape, List.concat_eq_append, List.flatMap_append]
    by_cases h : c = '|' <;> simp [h]

/-- An escaped text holds no separator, whatever stands before it. -/
theorem segments_escape (b : Bool) (s : List Char) : segments b (escape s) = [escape s] := by
  induction s generalizing b with
  | nil => rfl
  | cons c s ih =>
    rw [escape_cons]
    split
    · simp [segments_cons_eq_singleton_iff, ih]
    · next h => simp [segments_cons_eq_singleton_iff, ih, h]

/-- A character that does not stand with the next one for a pipe is kept. -/
theorem unescape_cons (h : ¬ (c = '\\' ∧ s.head? = some '|')) :
    unescape (c :: s) = c :: unescape s := by
  rw [unescape]
  rintro rest rfl rfl
  simp at h

/-- Unescaping undoes escaping. -/
theorem unescape_escape (s : List Char) : unescape (escape s) = s := by
  induction s with
  | nil => rfl
  | cons c s ih =>
    rw [escape_cons]
    split
    · next h => simp [unescape, ih, h]
    · rw [List.singleton_append, unescape_cons (fun h => head?_escape_ne s h.2), ih]

/-- Escaping undoes unescaping on a text without separators, since each of its pipes has a
backslash right before it. -/
theorem escape_unescape (h : segments b s = [s]) (hs : s.head? ≠ some '|') :
    escape (unescape s) = s := by
  induction s using unescape.induct generalizing b with
  | case1 rest ih =>
    obtain ⟨-, hrest⟩ := segments_cons_eq_singleton_iff.1 h
    obtain ⟨-, hrest⟩ := segments_cons_eq_singleton_iff.1 hrest
    rw [unescape, escape_cons, ih hrest (head?_ne_of_segments hrest)]
    rfl
  | case2 c rest hc ih =>
    have hpair : ¬ (c = '\\' ∧ rest.head? = some '|') := by
      rintro ⟨rfl, hhead⟩
      obtain ⟨tail, rfl⟩ := List.head?_eq_some_iff.1 hhead
      exact hc tail rfl rfl
    obtain ⟨-, hrest⟩ := segments_cons_eq_singleton_iff.1 h
    -- Behind a backslash a pipe would make the pair, behind another character it would separate.
    have hhead : rest.head? ≠ some '|' := by
      by_cases hback : c = '\\'
      · exact fun hpipe => hpair ⟨hback, hpipe⟩
      · rw [beq_eq_false_iff_ne.2 hback] at hrest
        exact head?_ne_of_segments hrest
    rw [unescape_cons hpair, escape_cons, if_neg (by simpa using hs), ih hrest hhead]
    rfl
  | case3 => rfl

/-- A text without pipes has nothing to unescape. -/
theorem unescape_of_not_mem (h : '|' ∉ s) : unescape s = s := by
  have hunescape := unescape_escape s
  rwa [escape_of_not_mem h] at hunescape

/-- In a text without separators each pipe is escaped. -/
theorem not_mem_of_unescape_eq (h : segments false s = [s]) (hs : unescape s = s) : '|' ∉ s := by
  have hescape := escape_unescape h (head?_ne_of_segments h)
  rw [hs] at hescape
  have hlength := congrArg List.length hescape
  rw [length_escape] at hlength
  exact List.count_eq_zero.1 (by omega)

/-- Only the empty text is unescaped to nothing. -/
theorem unescape_eq_nil_iff : unescape s = [] ↔ s = [] := by
  fun_cases unescape s <;> simp

/-- Unescaping leaves characters out. -/
theorem mem_of_mem_unescape (h : c ∈ unescape s) : c ∈ s := by
  fun_induction unescape s with
  | case1 rest ih =>
    rcases List.mem_cons.1 h with rfl | h
    · simp
    · exact List.mem_cons_of_mem _ (List.mem_cons_of_mem _ (ih h))
  | case2 d rest _ ih =>
    rcases List.mem_cons.1 h with rfl | h
    · exact List.mem_cons_self
    · exact List.mem_cons_of_mem _ (ih h)
  | case3 => exact h

/-- An unescaped text starts with a comma when the text does. -/
theorem head?_unescape_eq_comma_iff : (unescape s).head? = some ',' ↔ s.head? = some ',' := by
  fun_cases unescape s <;> simp

end Declaration

end RecordRules
