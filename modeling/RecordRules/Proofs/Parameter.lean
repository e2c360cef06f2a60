import RecordRules.Parameter
import RecordRules.Proofs.Text.Case

/-!
# Lists in parameters

The items of a parameter are its parts between semicolons, each trimmed and lowered by itself, but for
those that are blank (`Parameter.mem_items_iff`), though the parameter is lowered and trimmed as a whole
before it is split. Words are cut out of the lowered parameter too, between apostrophes or single spaces,
and are not trimmed; lowering them again makes no difference (`Parameter.isLowered_of_mem_words`). Words
without apostrophes and line feeds come back in lower case from a parameter in which they were put between
apostrophes, whatever else is in them (`Parameter.words_quoting`).
-/

namespace RecordRules

/-! ## Pieces -/

section
variable {sep : Char} {before after s : List Char}

/-- White space before a text is trimmed. -/
theorem Text.trim_blank_append (h : ∀ c ∈ before, isBlank c = true) : trim (before ++ s) = trim s := by
  have hstripped : stripped isBlank (before ++ (s ++ [])) = stripped isBlank s :=
    stripped_append h (List.forall_mem_nil _)
  rwa [List.append_nil] at hstripped

/-- So is white space after it. -/
theorem Text.trim_append_blank (h : ∀ c ∈ after, isBlank c = true) : trim (s ++ after) = trim s :=
  stripped_append (List.forall_mem_nil _) h

/-- Trimming a text before it is split makes no difference to its trimmed pieces. -/
theorem Text.map_trim_splitAll_trim (hsep : isBlank sep = false) (s : List Char) :
    (splitAll sep (trim s)).map trim = (splitAll sep s).map trim := by
  have hnot {blanks : List Char} (h : ∀ c ∈ blanks, isBlank c = true) : sep ∉ blanks := by
    intro hmem
    rw [h sep hmem] at hsep
    cases hsep
  obtain ⟨before, after, hs, hbefore, hafter⟩ := exists_stripped isBlank s
  obtain ⟨first, rest, hrest, hall⟩ := exists_splitAll_prepend (hnot hbefore) (trim s ++ after)
  obtain ⟨pieces, last, htrim, hend⟩ := exists_splitAll_append (hnot hafter) (trim s)
  have hwhole : splitAll sep s = (before ++ first) :: rest := (congrArg (splitAll sep) hs).trans hall
  calc
    (splitAll sep (trim s)).map trim
    _ = (splitAll sep (trim s ++ after)).map trim := by
      rw [hend, htrim, List.map_append, List.map_append, List.map_singleton, List.map_singleton,
        trim_append_blank hafter]
    _ = (splitAll sep s).map trim := by
      rw [hwhole, hrest, List.map_cons, List.map_cons, trim_blank_append hbefore]

end

namespace Parameter

/-! ## Items -/

/-- **The items of a parameter** are its parts, trimmed and lowered one by one, without empty ones. -/
theorem items_eq (p : String) : items p =
    (((Text.splitAll ';' p.toList).map fun part => Text.lowercase (Text.trim part)).filter
      (!·.isEmpty)).map .ofList := by
  have hparts : (Text.splitAll ';' (normalized p.toList)).map Text.trim =
      (Text.splitAll ';' p.toList).map fun part => Text.lowercase (Text.trim part) := by
    rw [normalized, Text.map_trim_splitAll_trim (by decide), Text.splitAll_lowercase, List.map_map]
    exact List.map_congr_left fun part _ => Text.trim_lowercase part
  rw [items, hparts]

/-- The items are the parts between semicolons, trimmed and lowered, the empty ones left out. -/
theorem mem_items_iff {p : String} {s : List Char} :
    String.ofList s ∈ items p ↔
      s ≠ [] ∧ ∃ part ∈ Text.splitAll ';' p.toList, Text.lowercase (Text.trim part) = s := by
  rw [items_eq, List.mem_map]
  constructor
  · rintro ⟨t, ht, heq⟩
    obtain rfl := String.ofList_injective heq
    obtain ⟨hpart, hne⟩ := List.mem_filter.1 ht
    exact ⟨by simpa using hne, List.mem_map.1 hpart⟩
  · rintro ⟨hne, hpart⟩
    exact ⟨s, List.mem_filter.2 ⟨List.mem_map.2 hpart, by simpa using hne⟩, rfl⟩

/-! ## Words -/

section
variable {p word : String} {state : QuoteState} {s w : List Char} {c : Char}

/-- The word that has been begun when the reader stands inside of quotes. -/
def QuoteState.begun : QuoteState → List Char
  | .inside word => word
  | _ => []

/-- Words between apostrophes are made of characters of the text. -/
theorem mem_of_mem_quotedWords (hw : w ∈ quotedWords state s) (hc : c ∈ w) :
    c ∈ state.begun ∨ c ∈ s := by
  induction s generalizing state with
  | nil => cases state <;> cases hw
  | cons d s ih =>
    have hrest {next : QuoteState} (hbegun : ∀ e ∈ next.begun, e ∈ state.begun ∨ e = d)
        (hnext : w ∈ quotedWords next s) : c ∈ state.begun ∨ c ∈ d :: s := by
      rcases ih hnext with hmem | hmem
      · rcases hbegun c hmem with hmem | rfl
        · exact .inl hmem
        · exact .inr List.mem_cons_self
      · exact .inr (List.mem_cons_of_mem d hmem)
    cases state with
    | outside =>
      refine hrest ?_ hw
      split <;> simp [QuoteState.begun]
    | opened =>
      refine hrest ?_ hw
      split <;> simp [QuoteState.begun]
    | inside word =>
      rw [quotedWords] at hw
      split at hw
      · rcases List.mem_cons.1 hw with rfl | hw
        · exact .inl hc
        · exact hrest (List.forall_mem_nil _) hw
      · split at hw
        · exact hrest (List.forall_mem_nil _) hw
        · refine hrest (fun e he => ?_) hw
          exact (List.mem_append.1 he).imp_right List.mem_singleton.1

/-- The characters of a word are among those of the lowered and trimmed parameter. -/
theorem mem_of_mem_words (hword : word ∈ words p) (hc : c ∈ word.toList) :
    c ∈ normalized p.toList := by
  simp only [words] at hword
  split at hword
  · obtain ⟨piece, hpiece, rfl⟩ := List.mem_map.1 hword
    rw [String.toList_ofList] at hc
    exact (Text.mem_of_mem_splitAll hpiece hc).1
  · obtain ⟨quoted, hquoted, rfl⟩ := List.mem_map.1 hword
    rw [String.toList_ofList] at hc
    exact (mem_of_mem_quotedWords hquoted hc).resolve_left (by simp [QuoteState.begun])

/-- Words stay as they are when they are lowered again. -/
theorem isLowered_of_mem_words (hword : word ∈ words p) : ∀ c ∈ word.toList, Text.IsLowered c := by
  intro c hc
  have hmem : c ∈ Text.trim (Text.lowercase p.toList) := mem_of_mem_words hword hc
  obtain ⟨before, after, hs, -, -⟩ := Text.exists_stripped Text.isBlank (Text.lowercase p.toList)
  refine Text.isLowered_of_mem_lowercase (s := p.toList) ?_
  rw [hs]
  exact List.mem_append_right before (List.mem_append_left after hmem)

end

/-! ## Quoted words -/

/-- A text that can stand between apostrophes as one word: it is not empty, on one line and without
apostrophes. -/
structure IsQuotable (w : List Char) : Prop where
  ne_nil : w ≠ []
  apostrophe_notMem : '\'' ∉ w
  newline_notMem : '\n' ∉ w

/-- A text between apostrophes. -/
def quote (w : List Char) : List Char := '\'' :: (w ++ ['\''])

/-- The parameter that lists the given words: each between apostrophes, with single spaces between
them. -/
def quoting (tokens : List String) : String :=
  " ".intercalate (tokens.map fun token => "'" ++ token ++ "'")

section
variable {w word rest : List Char} {ws : List (List Char)}

/-- Quoted tokens are separated by single spaces. -/
theorem toList_quoting (tokens : List String) :
    (quoting tokens).toList = [' '].intercalate ((tokens.map String.toList).map quote) := by
  simp [quoting, quote, String.toList_intercalate, Function.comp_def]

/-- A word is read up to the next apostrophe. -/
theorem quotedWords_inside (hquote : '\'' ∉ w) (hline : '\n' ∉ w) :
    quotedWords (.inside word) (w ++ '\'' :: rest) = (word ++ w) :: quotedWords .outside rest := by
  induction w generalizing word with
  | nil => simp [quotedWords]
  | cons c w ih =>
    simp only [List.mem_cons, not_or] at hquote hline
    rw [List.cons_append, quotedWords, if_neg (Ne.symm hquote.1), if_neg (Ne.symm hline.1),
      ih hquote.2 hline.2, List.append_assoc, List.singleton_append]

/-- A quoted token is read back, and reading goes on after it. -/
theorem IsQuotable.quotedWords_quote (h : IsQuotable w) :
    quotedWords .outside (quote w ++ rest) = w :: quotedWords .outside rest := by
  obtain ⟨hne, hquote, hline⟩ := h
  cases w with
  | nil => exact absurd rfl hne
  | cons c w =>
    simp only [List.mem_cons, not_or] at hquote hline
    have hinside : quotedWords (.inside [c]) (w ++ '\'' :: rest) = (c :: w) :: quotedWords .outside rest :=
      quotedWords_inside hquote.2 hline.2
    simp [quote, quotedWords, Ne.symm hline.1, hinside]

/-- What stands between single spaces and apostrophes is read as it was written. -/
theorem quotedWords_intercalate (h : ∀ w ∈ ws, IsQuotable w) :
    quotedWords .outside ([' '].intercalate (ws.map quote)) = ws := by
  induction ws with
  | nil => rfl
  | cons w ws ih =>
    have hw := h w List.mem_cons_self
    have hws := ih fun u hu => h u (List.mem_cons_of_mem w hu)
    cases ws with
    | nil =>
      have hlast : quotedWords .outside (quote w ++ []) = w :: quotedWords .outside [] := hw.quotedWords_quote
      simpa [quotedWords] using hlast
    | cons u ws =>
      rw [List.map_cons, List.map_cons, List.intercalate_cons_cons, List.append_assoc, hw.quotedWords_quote,
        ← List.map_cons, List.singleton_append, quotedWords, if_neg (by decide), hws]

/-- In lower case a word is as fit to stand between apostrophes as before. -/
theorem IsQuotable.lowercase (h : IsQuotable w) : IsQuotable (Text.lowercase w) where
  ne_nil := Text.lowercase_ne_nil h.ne_nil
  apostrophe_notMem hmem := h.apostrophe_notMem (Text.mem_of_mem_lowercase (by decide +kernel) hmem)
  newline_notMem hmem := h.newline_notMem (Text.mem_of_mem_lowercase (by decide +kernel) hmem)

/-- Words between apostrophes are lowered one by one. -/
theorem lowercase_intercalate_quote (ws : List (List Char)) :
    Text.lowercase ([' '].intercalate (ws.map quote)) =
      [' '].intercalate ((ws.map Text.lowercase).map quote) := by
  -- A sigma looks past the apostrophe next to it, but not past the space between two words.
  rw [(Text.isBoundary_of_isBlank (by decide)).lowercase_intercalate, List.map_map, List.map_map]
  exact congrArg _ (List.map_congr_left fun w _ => Text.isPassedOver_apostrophe.lowercase_between)

/-- Words between apostrophes, one after the other, begin and end with an apostrophe. -/
theorem exists_intercalate_quote (h : ws ≠ []) : ∃ mid, [' '].intercalate (ws.map quote) = quote mid := by
  induction ws with
  | nil => exact absurd rfl h
  | cons w ws ih =>
    cases ws with
    | nil => exact ⟨w, by simp⟩
    | cons u ws =>
      obtain ⟨mid, hmid⟩ := ih (List.cons_ne_nil u ws)
      refine ⟨w ++ '\'' :: ' ' :: '\'' :: mid, ?_⟩
      rw [List.map_cons, List.map_cons, List.intercalate_cons_cons, ← List.map_cons, hmid]
      simp [quote]

/-- A quoted token begins and ends with quotation marks, so there is nothing to trim. -/
theorem trim_quote (w : List Char) : Text.trim (quote w) = quote w := by
  refine Text.stripped_of_ends (fun c hc => ?_) fun c hc => ?_
  · obtain rfl : '\'' = c := Option.some.inj hc
    decide
  · rw [quote, ← List.cons_append, List.getLast?_concat] at hc
    obtain rfl : '\'' = c := Option.some.inj hc
    decide

/-- The parameter that lists words, in lower case, is the list of the words in lower case. -/
theorem normalized_quoting {tokens : List String} (hne : tokens ≠ []) :
    normalized (quoting tokens).toList =
      [' '].intercalate (((tokens.map String.toList).map Text.lowercase).map quote) := by
  obtain ⟨mid, hmid⟩ : ∃ mid, [' '].intercalate
      (((tokens.map String.toList).map Text.lowercase).map quote) = quote mid :=
    exists_intercalate_quote (by simpa using hne)
  rw [normalized, toList_quoting, lowercase_intercalate_quote, hmid, trim_quote]

/-- **Words that are put between apostrophes come back** in lower case, in their order and as often as
they were put there. -/
theorem words_quoting {tokens : List String} (hne : tokens ≠ [])
    (h : ∀ token ∈ tokens, IsQuotable token.toList) : words (quoting tokens) = tokens.map Text.lowered := by
  have hquotable : ∀ w ∈ (tokens.map String.toList).map Text.lowercase, IsQuotable w := by
    intro w hw
    obtain ⟨u, hu, rfl⟩ := List.mem_map.1 hw
    obtain ⟨token, htoken, rfl⟩ := List.mem_map.1 hu
    exact (h token htoken).lowercase
  have hread : quotedWords .outside (normalized (quoting tokens).toList) =
      (tokens.map String.toList).map Text.lowercase := by
    rw [normalized_quoting hne, quotedWords_intercalate hquotable]
  cases tokens with
  | nil => exact absurd rfl hne
  | cons token tokens =>
    simp only [words]
    rw [hread]
    simp [Text.lowered]

/-- Words with spaces and other separators in them, one of them twice, and one in Greek capitals, whose
last letter has a form of its own. -/
theorem words_quoting_separators :
    let tokens := ["New York", "a;b, c", "ΟΔΟΣ", "New York"]
    (∀ token ∈ tokens, IsQuotable token.toList) ∧
      quoting tokens = "'New York' 'a;b, c' 'ΟΔΟΣ' 'New York'" ∧
      words (quoting tokens) = ["new york", "a;b, c", "οδος", "new york"] := by
  intro tokens
  have hquotable : ∀ token ∈ tokens, IsQuotable token.toList := by
    simp only [tokens, List.forall_mem_cons]
    exact ⟨⟨by decide, by decide, by decide⟩, ⟨by decide, by decide, by decide⟩,
      ⟨by decide, by decide, by decide⟩, ⟨by decide, by decide, by decide⟩, List.forall_mem_nil _⟩
  refine ⟨hquotable, by decide, ?_⟩
  rw [words_quoting (List.cons_ne_nil _ _) hquotable]
  decide +kernel

end

end Parameter

end RecordRules
