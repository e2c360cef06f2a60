import RecordRules.Pattern.Delimited
import RecordRules.Proofs.Declaration.RoundTrip
import RecordRules.Proofs.Text.Split

/-!
# Delimited patterns

A parameter that consists of a delimiter, a text, the same delimiter and letters of flags asks for
that text with these flags (`Pattern.delimited?_eq_some_iff`), and a parameter of any other form asks
for itself without flags. What stands between the delimiters may be anything, the delimiter included,
and there is only one way to read it. `Pattern.request_of_declared` adds that such a parameter passes
through a declaration unchanged, at its place among other rules.
-/

namespace RecordRules

namespace Pattern

/-- The letters of the flags that may follow a delimited pattern. -/
def flagLetters : List Char := ['i', 'm', 's', 'x', 'u']

/-- The flags that letters name. -/
def Flags.named (letters : List Char) : Flags where
  ignoreCase := letters.contains 'i'
  multiline := letters.contains 'm'
  dotAll := letters.contains 's'
  verbose := letters.contains 'x'
  unicode := letters.contains 'u'

/-- A text between two equal delimiters, followed by letters of flags. -/
structure IsDelimited (param : List Char) (d : Char) (body letters : List Char) : Prop where
  delimiter : isDelimiter d = true
  flags : ∀ c ∈ letters, c ∈ flagLetters
  text : param = d :: (body ++ d :: letters)

variable {c d : Char} {s param body letters : List Char} {flags : Flags}

/-! ## Splitting at the last delimiter -/

/-- A text is split where what follows holds the character no more. -/
theorem splitLast?_eq_some_iff :
    splitLast? d s = some (body, letters) ↔ d ∉ letters ∧ s = body ++ d :: letters := by
  have hreverse : s = body ++ d :: letters ↔ s.reverse = letters.reverse ++ d :: body.reverse := by
    rw [← List.reverse_inj]
    simp
  rw [hreverse, ← List.mem_reverse, ← Text.cut_iff, splitLast?]
  cases hrest : s.reverse.dropWhile (· ≠ d) with
  | nil => simp
  | cons e rest =>
    obtain rfl := Text.eq_of_dropWhile_ne hrest
    simp [List.reverse_eq_iff, and_comm]

/-! ## Letters of flags -/

/-- A delimiter is no letter of a flag, so the letters do not hold it. -/
theorem not_mem_of_letters (hd : isDelimiter d = true) (h : ∀ c ∈ letters, c ∈ flagLetters) :
    d ∉ letters := by
  have hdisjoint : ∀ c ∈ flagLetters, isDelimiter c = false := by simp [flagLetters, isDelimiter]
  intro hmem
  rw [hdisjoint d (h d hmem)] at hd
  cases hd

/-- Exactly the letters of flags stand for a flag, the one they name. -/
theorem suffixFlag?_eq (c : Char) :
    suffixFlag? c = if flagLetters.contains c then some (Flags.named [c]) else none := by
  by_cases h : c ∈ flagLetters
  · rw [if_pos (List.contains_iff_mem.2 h)]
    simp only [flagLetters, List.mem_cons, List.not_mem_nil, or_false] at h
    rcases h with rfl | rfl | rfl | rfl | rfl <;> rfl
  · rw [if_neg (mt List.contains_iff_mem.1 h)]
    simp only [flagLetters, List.mem_cons, not_or] at h
    unfold suffixFlag?
    split <;> simp_all

/-- The flags of letters are those of each letter together. -/
theorem Flags.named_cons (c : Char) (letters : List Char) :
    named (c :: letters) = (named [c]).union (named letters) := by
  simp [named, union]

/-- It does not matter in which order flags are put together. -/
theorem Flags.union_assoc (f g h : Flags) : (f.union g).union h = f.union (g.union h) := by
  simp [union, Bool.or_assoc]

/-- Letters of flags, taken one by one, make the flags that they name. -/
theorem foldl_union_named (start : Flags) (letters : List Char) :
    (letters.map fun c => Flags.named [c]).foldl Flags.union start =
      start.union (Flags.named letters) := by
  induction letters generalizing start with
  | nil => simp [Flags.named, Flags.union]
  | cons c letters ih =>
    rw [List.map_cons, List.foldl_cons, ih, Flags.union_assoc, ← Flags.named_cons]

/-- Each of the letters is that of a flag. -/
theorem all_flagLetters_iff :
    letters.all flagLetters.contains = true ↔ ∀ c ∈ letters, c ∈ flagLetters := by
  simp only [List.all_eq_true, List.contains_iff_mem]

/-- Letters are read as flags when each of them is the letter of one. -/
theorem mapM_suffixFlag? (letters : List Char) : letters.mapM suffixFlag? =
    if letters.all flagLetters.contains then some (letters.map fun c => Flags.named [c])
    else none := by
  induction letters with
  | nil => rfl
  | cons c letters ih =>
    rw [List.mapM_cons, ih, suffixFlag?_eq, List.all_cons]
    cases flagLetters.contains c with
    | true =>
      rw [if_pos rfl, Bool.true_and]
      split <;> rfl
    | false => rfl

/-! ## Reading a parameter -/

/-- A delimited pattern is cut at its last delimiter. -/
theorem IsDelimited.splitLast? (h : IsDelimited param d body letters) :
    splitLast? d param.tail = some (body, letters) := by
  rw [splitLast?_eq_some_iff, h.text]
  exact ⟨not_mem_of_letters h.delimiter h.flags, rfl⟩

/-- There is one way to read a delimited pattern. -/
theorem IsDelimited.unique {d' : Char} {body' letters' : List Char}
    (h : IsDelimited param d body letters) (h' : IsDelimited param d' body' letters') :
    d = d' ∧ body = body' ∧ letters = letters' := by
  obtain rfl : d = d' := (List.cons.inj (h.text.symm.trans h'.text)).1
  have hcut := h.splitLast?.symm.trans h'.splitLast?
  cases hcut
  exact ⟨rfl, rfl, rfl⟩

/-- A delimited pattern does not end in a backslash, so no pipe behind it is taken for an escape. -/
theorem IsDelimited.getLast?_ne (h : IsDelimited param d body letters) :
    param.getLast? ≠ some '\\' := by
  have hsuffix : ∀ c ∈ d :: letters, c ≠ '\\' := by
    have hletters : ∀ c ∈ flagLetters, c ≠ '\\' := by simp [flagLetters]
    rintro c hc rfl
    rcases List.mem_cons.1 hc with rfl | hc
    · exact absurd h.delimiter (by decide)
    · exact hletters _ (h.flags _ hc) rfl
  intro hlast
  rw [h.text, ← List.cons_append, List.getLast?_append_of_ne_nil _ (by simp)] at hlast
  exact hsuffix _ (List.mem_of_getLast? hlast) rfl

/-- **What is read as a delimited pattern**: a text between two equal delimiters, followed by letters
of flags, with the flags that these name. -/
theorem delimited?_eq_some_iff : delimited? param = some (body, flags) ↔
    ∃ d letters, IsDelimited param d body letters ∧ flags = Flags.named letters := by
  have hstart (letters : List Char) :
      (letters.map fun c => Flags.named [c]).foldl Flags.union {} = Flags.named letters :=
    foldl_union_named {} letters
  cases param with
  | nil => exact iff_of_false (by simp [delimited?]) fun ⟨_, _, h, _⟩ => nomatch h.text
  | cons d rest =>
    constructor
    · intro h
      rw [delimited?] at h
      split at h
      · next hd =>
        obtain ⟨⟨body, letters⟩, hcut, h⟩ := Option.bind_eq_some_iff.1 h
        obtain ⟨each, heach, h⟩ := Option.bind_eq_some_iff.1 h
        rw [mapM_suffixFlag?] at heach
        split at heach
        · next hletters =>
          cases heach
          cases h
          obtain ⟨-, rfl⟩ := splitLast?_eq_some_iff.1 hcut
          exact ⟨d, letters, ⟨hd, all_flagLetters_iff.1 hletters, rfl⟩, hstart letters⟩
        · cases heach
      · cases h
    · rintro ⟨e, letters, h, rfl⟩
      obtain rfl : d = e := (List.cons.inj h.text).1
      have htail : (d :: rest).tail = rest := rfl
      rw [delimited?, if_pos h.delimiter, ← htail, h.splitLast?]
      simp only [mapM_suffixFlag?, if_pos (all_flagLetters_iff.2 h.flags), Option.bind_eq_bind,
        Option.bind_some, hstart]
      rfl

/-- A delimited parameter asks for its body with its flags. -/
theorem IsDelimited.request (h : IsDelimited param d body letters) :
    request param = (body, Flags.named letters) := by
  rw [Pattern.request, delimited?_eq_some_iff.2 ⟨d, letters, h, rfl⟩]
  rfl

/-- A parameter that is no delimited pattern asks for itself, without flags. -/
theorem request_of_not_isDelimited (h : ∀ d body letters, ¬ IsDelimited param d body letters) :
    request param = (param, {}) := by
  rw [Pattern.request]
  cases hread : delimited? param with
  | none => rfl
  | some asked =>
    obtain ⟨d, letters, hdelimited, -⟩ := delimited?_eq_some_iff.1 hread
    exact absurd hdelimited (h d _ letters)

end Pattern

open Declaration Pattern

/-! ## Among other rules -/

/-- A rule ends in what its parameter ends in. -/
theorem Declaration.getLast?_declaration {name param : String} (h : param.toList ≠ []) :
    (Invocation.declaration ⟨name, some param⟩).toList.getLast? = param.toList.getLast? := by
  rw [toList_declaration, Option.map_some, Option.getD_some, List.append_cons,
    List.getLast?_append_of_ne_nil _ h]

/-- **A delimited pattern survives its declaration.** As the parameter of a rule among others that do
not end in backslashes, a delimited pattern is read back at the place of the rule, and it asks for
exactly the text between the delimiters with exactly the flags that are named behind it. A parameter
of another form asks for itself without flags, and no parameter is of the form in two ways. -/
theorem Pattern.request_of_declared :
    (∀ (before after : List Invocation) (param : String) (d : Char) (body letters : List Char),
      (∀ i ∈ before ++ after, i.name ≠ "" ∧ ',' ∉ i.name.toList ∧
        i.declaration.toList.getLast? ≠ some '\\') →
      IsDelimited param.toList d body letters →
      parseRules (encode (before ++ ⟨"regex", some param⟩ :: after)) =
          .ok (before ++ ⟨"regex", some param⟩ :: after) ∧
        request param.toList = (body, Flags.named letters)) ∧
    (∀ param, (∀ d body letters, ¬ IsDelimited param d body letters) →
      request param = (param, {})) ∧
    ∀ param d body letters d' body' letters', IsDelimited param d body letters →
      IsDelimited param d' body' letters' → body = body' ∧ letters = letters' := by
  refine ⟨fun before after param d body letters hothers h => ⟨?_, h.request⟩,
    fun param => request_of_not_isDelimited, fun param d body letters d' body' letters' h h' =>
      (h.unique h').2⟩
  have hrules : ∀ i ∈ before ++ ⟨"regex", some param⟩ :: after, i.name ≠ "" ∧
      ',' ∉ i.name.toList ∧ i.declaration.toList.getLast? ≠ some '\\' := by
    intro i hi
    have hi : i = ⟨"regex", some param⟩ ∨ i ∈ before ++ after := by
      simp only [List.mem_append, List.mem_cons] at hi ⊢
      tauto
    rcases hi with rfl | hi
    · have hparam : param.toList ≠ [] := by
        rw [h.text]
        simp
      refine ⟨show "regex" ≠ "" by decide, show ',' ∉ "regex".toList by decide, ?_⟩
      rw [getLast?_declaration hparam]
      exact h.getLast?_ne
    · exact hothers i hi
  refine (parseRules_encode_eq_ok_iff fun i hi => ⟨(hrules i hi).1, (hrules i hi).2.1⟩).2
    fun i hi => (hrules i ((List.dropLast_sublist _).subset hi)).2.2

/-- The body holds the delimiter, a comma, and pipes with and without a backslash before them; a text
with a letter of no flag at its end is a pattern as a whole. -/
theorem Pattern.request_of_declared_hash :
    let before : List Invocation := [⟨"min_len", some "1"⟩]
    let after : List Invocation := [⟨"a|b", some ""⟩, ⟨"alpha", none⟩]
    let param : String := "#a|#,\\|i#im"
    (∀ i ∈ before ++ after, i.name ≠ "" ∧ ',' ∉ i.name.toList ∧
        i.declaration.toList.getLast? ≠ some '\\') ∧
      IsDelimited param.toList '#' "a|#,\\|i".toList ['i', 'm'] ∧
      encode (before ++ ⟨"regex", some param⟩ :: after) =
        "min_len,1|regex,#a\\|#,\\\\|i#im|a\\|b,|alpha" ∧
      parseRules "min_len,1|regex,#a\\|#,\\\\|i#im|a\\|b,|alpha" =
        .ok (before ++ ⟨"regex", some param⟩ :: after) ∧
      request param.toList = ("a|#,\\|i".toList, { ignoreCase := true, multiline := true }) ∧
      (∀ d body letters, ¬ IsDelimited "/a/g".toList d body letters) ∧
      request "/a/g".toList = ("/a/g".toList, {}) := by
  intro before after param
  have hothers : ∀ i ∈ before ++ after, i.name ≠ "" ∧ ',' ∉ i.name.toList ∧
      i.declaration.toList.getLast? ≠ some '\\' := by decide
  have hparam : IsDelimited param.toList '#' "a|#,\\|i".toList ['i', 'm'] :=
    ⟨by decide, by simp [flagLetters], by decide⟩
  have hencode : encode (before ++ ⟨"regex", some param⟩ :: after) =
      "min_len,1|regex,#a\\|#,\\\\|i#im|a\\|b,|alpha" := by decide
  have hbare : ∀ d body letters, ¬ IsDelimited "/a/g".toList d body letters := by
    intro d body letters h
    have hread : delimited? "/a/g".toList = none := rfl
    rw [delimited?_eq_some_iff.2 ⟨d, letters, h, rfl⟩] at hread
    cases hread
  obtain ⟨hdeclared, hwhole, -⟩ := request_of_declared
  obtain ⟨hparsed, hrequest⟩ := hdeclared before after param _ _ _ hothers hparam
  rw [hencode] at hparsed
  exact ⟨hothers, hparam, hencode, hparsed, hrequest, hbare, hwhole _ hbare⟩

end RecordRules
