import RecordRules.Json.Reader

/-!
# The limits of the JSON reader

The reader gives up when an integer has too many digits or containers are nested too deeply. A text
of at most `Number.digitLimit` characters that opens no more containers than may be nested passes
neither limit (`read_keeps`): the open containers and the openings ahead of the reader never become
more (`Fits`). The bound on the depth is sharp (`read_nested`).
-/

namespace RecordRules.Json

/-- The reader does not give up, and what it reads has a property. -/
inductive Keeps {α : Type} (P : α → Prop) : Except Fault α → Prop
  | done {a : α} : P a → Keeps P (.ok a)
  | malformed {complaint : Complaint} {place : Nat} :
      Keeps P (.error (.malformed complaint place))

section
variable {α β : Type} {x : Except Fault α} {P Q : α → Prop}

/-- What keeps a property meets no limit. -/
theorem Keeps.ne_limit (h : Keeps P x) (cause : Cause) : x ≠ .error (.limit cause) := by
  rintro rfl
  cases h

/-- A weaker property is kept as well. -/
theorem Keeps.mono (h : Keeps P x) (hPQ : ∀ a, P a → Q a) : Keeps Q x := by
  cases h with
  | done h => exact .done (hPQ _ h)
  | malformed => exact .malformed

/-- One step after another: the second may rely on what the first keeps. -/
theorem Keeps.bind {f : α → Except Fault β} {R : β → Prop} (hx : Keeps P x)
    (hf : ∀ a, P a → Keeps R (f a)) : Keeps R (x >>= f) := by
  cases hx with
  | done h => exact hf _ h
  | malformed => exact .malformed

/-- A document that is not well-formed meets no limit. -/
theorem keeps_fail {s : Source} {complaint : Complaint} : Keeps P (s.fail complaint) := .malformed

end

section
variable {depthLimit : Nat} {s : Source} {stack : List Frame} {frame : Frame}
  {rest rest' : List Char} {c : Char}

/-! ## What is left of the text -/

/-- Skipping leaves an end of the text. -/
theorem Source.skip_suffix {n : Nat} : (s.skip n).rest <:+ s.rest := List.drop_suffix n s.rest

/-- So does skipping white space. -/
theorem Source.skipSpace_suffix : s.skipSpace.rest <:+ s.rest := skip_suffix

/-- One character skipped, what is left is what follows it. -/
theorem Source.skip_one_suffix (hs : s.rest = c :: rest) : (s.skip 1).rest <:+ rest := by
  rw [skip, hs]
  exact List.suffix_rfl

/-- After a string, the end of the text is left. -/
theorem readString_keeps {start fuel : Nat} {read : List Char} :
    Keeps (fun r => r.2.rest <:+ s.rest) (readString start fuel read s) := by
  fun_induction readString start fuel read s with
  | case1 | case2 | case4 | case5 | case8 | case9 | case10 => exact .malformed
  | case3 => exact .done Source.skip_suffix
  | case6 | case7 | case11 =>
    rename_i ih
    exact ih.mono fun _ h => h.trans Source.skip_suffix

/-- Reading a name meets no limit, and leaves an end of the text. -/
theorem readName_keeps : Keeps (fun r => r.2.rest <:+ s.rest) (readName s) := by
  rw [readName]
  split
  · refine readString_keeps.bind fun ⟨name, after⟩ hafter => ?_
    dsimp only
    split
    · exact .done (Source.skipSpace_suffix.trans <| Source.skip_suffix.trans <|
        Source.skipSpace_suffix.trans <| hafter.trans Source.skip_suffix)
    · exact keeps_fail
  · exact keeps_fail

/-- A number has no more digits than the text has characters. -/
theorem wholeDigits_length_le (s : List Char) : (wholeDigits s).length ≤ s.length := by
  unfold wholeDigits
  split
  · simp
  · exact (List.takeWhile_sublist _).length_le

/-- A number with few enough digits meets no limit. -/
theorem numberValue_keeps {negative : Bool} {whole fraction exponent : List Char}
    (h : whole.length ≤ Number.digitLimit) :
    Keeps (fun _ => True) (numberValue negative whole fraction exponent) := by
  rw [numberValue]
  split
  · rw [if_neg (by omega)]
    exact .done trivial
  · exact .done trivial

/-- In a text with few enough characters there is no longer number. -/
theorem readNumber_keeps (h : s.rest.length ≤ Number.digitLimit) :
    Keeps (fun r => r.2.rest <:+ s.rest) (readNumber s) := by
  rw [readNumber]
  split
  next sign body hsplit =>
  have hbody : body <:+ s.rest := by
    split at hsplit
    · next rest hrest =>
      obtain ⟨-, rfl⟩ := Prod.mk.inj hsplit
      rw [hrest]
      exact List.suffix_cons _ _
    · obtain ⟨-, rfl⟩ := Prod.mk.inj hsplit
      exact List.suffix_rfl
  dsimp only
  split
  · exact keeps_fail
  · have hwhole : (wholeDigits body).length ≤ Number.digitLimit :=
      Nat.le_trans (wholeDigits_length_le body) (Nat.le_trans hbody.length_le h)
    exact (numberValue_keeps hwhole).bind fun _ _ => .done Source.skip_suffix

/-- A value without items meets no limit in a text with few enough characters. -/
theorem readScalar_keeps (h : s.rest.length ≤ Number.digitLimit) :
    Keeps (fun r => r.2.rest <:+ s.rest) (readScalar s) := by
  rw [readScalar]
  split
  · exact .done Source.skip_suffix
  · exact readNumber_keeps h

/-! ## Open containers -/

/-- True of the characters that open a container. -/
def isOpening (c : Char) : Bool := c == '[' || c == '\x7b'

/-- The open containers and the rest of a text stay within the limits whatever comes next. -/
structure Fits (depthLimit : Nat) (stack : List Frame) (rest : List Char) : Prop where
  length : rest.length ≤ Number.digitLimit
  depth : stack.length + rest.countP isOpening ≤ depthLimit

/-- Reading on, the text only gets shorter. -/
theorem Fits.of_suffix (h : Fits depthLimit stack rest) (hrest : rest' <:+ rest) :
    Fits depthLimit stack rest' where
  length := Nat.le_trans hrest.length_le h.length
  depth := by
    have hcount : rest'.countP isOpening ≤ rest.countP isOpening := hrest.sublist.countP_le
    have hdepth := h.depth
    omega

/-- A container that is closed makes room. -/
theorem Fits.of_cons (h : Fits depthLimit (frame :: stack) rest) : Fits depthLimit stack rest where
  length := h.length
  depth := by
    have hdepth := h.depth
    rw [List.length_cons] at hdepth
    omega

/-- What is kept of a bracket does not count, only that it is open. -/
theorem Fits.exchange {other : Frame} (h : Fits depthLimit (frame :: stack) rest) :
    Fits depthLimit (other :: stack) rest :=
  ⟨h.length, h.depth⟩

/-- An opening that has been read makes room for its container. -/
theorem Fits.lt_depthLimit (h : Fits depthLimit stack (c :: rest)) (hc : isOpening c = true) :
    stack.length < depthLimit := by
  have hdepth := h.depth
  rw [List.countP_cons_of_pos hc] at hdepth
  omega

/-- A bracket that opens takes one from those left in the text and adds one to those open. -/
theorem Fits.opened (h : Fits depthLimit stack (c :: rest)) (hc : isOpening c = true)
    (hrest : rest' <:+ rest) : Fits depthLimit (frame :: stack) rest' := by
  refine of_suffix ⟨?_, ?_⟩ hrest
  · exact Nat.le_of_succ_le h.length
  · have hdepth := h.depth
    rw [List.countP_cons_of_pos hc] at hdepth
    rw [List.length_cons]
    omega

/-- What the reader goes on with fits. -/
def Goes (depthLimit : Nat) (next : Task × List Frame × Source) : Prop :=
  Fits depthLimit next.2.1 next.2.2.rest

/-- Opening a list keeps within the limits. -/
theorem openArray_goes (h : Fits depthLimit stack (c :: rest)) (hc : isOpening c = true)
    (hs : s.rest <:+ rest) : Goes depthLimit (openArray stack s) := by
  have hlater : s.skipSpace.rest <:+ rest := Source.skipSpace_suffix.trans hs
  rw [openArray]
  split
  · exact h.of_suffix ((Source.skip_suffix.trans hlater).trans (List.suffix_cons c rest))
  · exact h.opened hc hlater

/-- Opening an object keeps within the limits. -/
theorem openObject_keeps (h : Fits depthLimit stack (c :: rest)) (hc : isOpening c = true)
    (hs : s.rest <:+ rest) : Keeps (Goes depthLimit) (openObject stack s) := by
  have hlater : s.skipSpace.rest <:+ rest := Source.skipSpace_suffix.trans hs
  rw [openObject]
  split
  · exact .done (h.of_suffix ((Source.skip_suffix.trans hlater).trans (List.suffix_cons c rest)))
  · exact readName_keeps.bind fun _ hname => .done (h.opened hc (hname.trans hlater))

/-- Reading a value keeps within the limits. -/
theorem readValue_keeps (h : Fits depthLimit stack s.rest) :
    Keeps (Goes depthLimit) (readValue depthLimit stack s) := by
  rw [readValue]
  split
  · exact keeps_fail
  · exact readString_keeps.bind fun _ hafter =>
      .done (h.of_suffix (hafter.trans Source.skip_suffix))
  -- The opening that stands here counts as ahead, so there is room for its container.
  · next rest hrest =>
    rw [hrest] at h
    rw [if_neg (Nat.not_le.2 (h.lt_depthLimit rfl))]
    exact .done (openArray_goes h rfl (Source.skip_one_suffix hrest))
  · next rest hrest =>
    rw [hrest] at h
    rw [if_neg (Nat.not_le.2 (h.lt_depthLimit rfl))]
    exact openObject_keeps h rfl (Source.skip_one_suffix hrest)
  · exact (readScalar_keeps h.length).bind fun _ hafter => .done (h.of_suffix hafter)

/-- Putting a value into the innermost list or object keeps within the limits. -/
theorem putValue_keeps {v : Value} (h : Fits depthLimit (frame :: stack) s.rest) :
    Keeps (Goes depthLimit) (putValue v frame stack s) := by
  have hlater : s.skipSpace.rest <:+ s.rest := Source.skipSpace_suffix
  have hafter : (s.skipSpace.skip 1).skipSpace.rest <:+ s.rest :=
    Source.skipSpace_suffix.trans (Source.skip_suffix.trans hlater)
  unfold putValue
  dsimp only
  split
  · exact .done (h.of_cons.of_suffix (Source.skip_suffix.trans hlater))
  · exact .done (h.exchange.of_suffix hafter)
  · exact .done (h.of_cons.of_suffix (Source.skip_suffix.trans hlater))
  · exact readName_keeps.bind fun _ hname => .done (h.exchange.of_suffix (hname.trans hafter))
  · exact keeps_fail

/-- A reader that stands within the limits does not give up. -/
theorem work_keeps {fuel : Nat} {task : Task} (h : Fits depthLimit stack s.rest) :
    Keeps (fun _ => True) (work depthLimit fuel task stack s) := by
  induction fuel generalizing task stack s with
  | zero => exact keeps_fail
  | succ fuel ih =>
    cases task with
    | read =>
      rw [work]
      exact (readValue_keeps h).bind fun _ hnext => ih hnext
    | put v =>
      cases stack with
      | nil =>
        rw [work]
        exact .done trivial
      | cons frame stack =>
        rw [work]
        exact (putValue_keeps h).bind fun _ hnext => ih hnext

/-- **The limits are kept** on a text that is short enough and opens few enough containers. -/
theorem read_keeps {text : List Char} (hlength : text.length ≤ Number.digitLimit)
    (hdepth : text.countP isOpening ≤ depthLimit) : Keeps (fun _ => True) (read depthLimit text) := by
  have hstart : Fits depthLimit [] (Source.skipSpace ⟨text, 0⟩).rest :=
    Fits.of_suffix ⟨hlength, by simpa using hdepth⟩ Source.skipSpace_suffix
  rw [read]
  split
  · exact .malformed
  · refine (work_keeps hstart).bind fun _ _ => ?_
    dsimp only
    split
    · exact .done trivial
    · exact keeps_fail

/-! ## Containers beyond the limit -/

/-- Nothing is skipped before a character that is no white space. -/
theorem Source.skipSpace_of_not_isSpace {place : Nat} (hc : isSpace c = false) :
    (⟨c :: rest, place⟩ : Source).skipSpace = ⟨c :: rest, place⟩ := by
  simp [skipSpace, skip, hc]

/-- A list that opens with another bracket is read on. -/
theorem openArray_nested {place : Nat} :
    openArray stack ⟨'[' :: rest, place⟩ = (.read, .array [] :: stack, ⟨'[' :: rest, place⟩) := by
  unfold openArray
  rw [Source.skipSpace_of_not_isSpace rfl]
  rfl

/-- A reader gives up on more openings than there is room for. -/
theorem work_nested {fuel n place : Nat} (hroom : depthLimit < stack.length + n)
    (hstack : stack.length ≤ depthLimit) (hfuel : n ≤ fuel) :
    work depthLimit fuel .read stack ⟨List.replicate n '[' ++ rest, place⟩ =
      .error (.limit (.nestedTooDeeply .array)) := by
  induction n generalizing fuel stack place with
  | zero => omega
  | succ n ih =>
    obtain ⟨fuel, rfl⟩ := Nat.exists_eq_add_of_le' (Nat.le_of_add_left_le hfuel)
    rw [work, readValue, List.replicate_succ, List.cons_append]
    dsimp only
    by_cases hfull : depthLimit ≤ stack.length
    · rw [if_pos hfull]
      rfl
    · obtain ⟨m, rfl⟩ : ∃ m, n = m + 1 := Nat.exists_eq_succ_of_ne_zero (by omega)
      rw [if_neg hfull, Source.skip, List.drop_succ_cons, List.drop_zero, List.replicate_succ,
        List.cons_append, openArray_nested, ← List.cons_append, ← List.replicate_succ]
      have hroom' : depthLimit < (Frame.array [] :: stack).length + (m + 1) := by
        rw [List.length_cons]
        omega
      exact ih hroom' (Nat.not_le.1 hfull) (Nat.le_of_succ_le_succ hfuel)

/-- **The depth is bounded**: the reader gives up on a text that opens too many arrays at once. -/
theorem read_nested {n : Nat} (h : depthLimit < n) (rest : List Char) :
    read depthLimit (List.replicate n '[' ++ rest) = .error (.limit (.nestedTooDeeply .array)) := by
  obtain ⟨m, rfl⟩ : ∃ m, n = m + 1 := Nat.exists_eq_succ_of_ne_zero (by omega)
  have hwork : work depthLimit (2 * (List.replicate (m + 1) '[' ++ rest).length + 2) .read []
      ⟨List.replicate (m + 1) '[' ++ rest, 0⟩ = .error (.limit (.nestedTooDeeply .array)) :=
    work_nested (by simpa using h) (Nat.zero_le _) (by simp; omega)
  have hstart : Source.skipSpace ⟨List.replicate (m + 1) '[' ++ rest, 0⟩ =
      ⟨List.replicate (m + 1) '[' ++ rest, 0⟩ := Source.skipSpace_of_not_isSpace rfl
  rw [read, if_neg (by simp [List.replicate_succ]), hstart, hwork]
  rfl

end

end RecordRules.Json
