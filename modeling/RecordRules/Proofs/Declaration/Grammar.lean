import Mathlib.Order.Bounds.Defs
import RecordRules.Proofs.Declaration.Parse

/-!
# The grammar of declarations

Which declarations are read is told by their characters alone. A pipe separates rules when no
backslash stands right before it (`IsSeparator`), and rules start at the very start and right after
separators (`ruleStarts`). A rule is refused when at its start the text ends or a pipe or a comma
stands (`Offends`). `parseRules_grammar` says that a declaration is refused exactly when one of its
rules is, with the reason of the leftmost one, and that otherwise it has one invocation for each
rule.

The characters at the rule starts are the first characters of the segments (`heads_segments`), and
nothing else of a segment decides on its flaw (`findSome?_segments_eq_some_iff`).
-/

namespace RecordRules

namespace Declaration

variable {s t : List Char} {i k : Nat}

/-! ## Separators and rule starts -/

/-- The character at a position is a pipe without a backslash right before it. -/
def IsSeparator (s : List Char) (i : Nat) : Prop :=
  s[i]? = some '|' ∧ (i = 0 ∨ s[i - 1]? ≠ some '\\')

instance (s : List Char) (i : Nat) : Decidable (IsSeparator s i) :=
  inferInstanceAs (Decidable (_ ∧ _))

/-- The positions of the separators, in order. -/
def separators (s : List Char) : List Nat := (List.range s.length).filter fun i => IsSeparator s i

/-- The positions at which rules start, in order. -/
def ruleStarts (s : List Char) : List Nat := 0 :: (separators s).map (· + 1)

/-- A rule that starts at the position is empty or has an empty name. -/
def Offends (s : List Char) (k : Nat) : Prop :=
  s[k]? = none ∨ s[k]? = some '|' ∨ s[k]? = some ','

/-- The separators are listed by their places. -/
theorem mem_separators : i ∈ separators s ↔ IsSeparator s i := by
  simp only [separators, List.mem_filter, List.mem_range, decide_eq_true_eq, and_iff_right_iff_imp]
  exact fun h => (List.getElem?_eq_some_iff.1 h.1).1

/-- Rules begin one after the other. -/
theorem ruleStarts_pairwise (s : List Char) : (ruleStarts s).Pairwise (· < ·) := by
  refine List.pairwise_cons.2 ⟨fun k hk => ?_, ?_⟩
  · obtain ⟨i, -, rfl⟩ := List.mem_map.1 hk
    exact Nat.succ_pos i
  · exact (List.pairwise_lt_range.filter _).map _ fun _ _ h => Nat.succ_lt_succ h

/-! ## Segments start at rule starts -/

/-- The separators of the rest of a text, where `escaped` is true when a backslash stands right
before it. -/
def separatorsFrom (escaped : Bool) (s : List Char) : List Nat :=
  (List.range s.length).filter fun i =>
    s[i]? = some '|' ∧ if i = 0 then escaped = false else s[i - 1]? ≠ some '\\'

/-- The list is made in one pass, which remembers whether the last character was a backslash. -/
theorem separators_eq_separatorsFrom (s : List Char) : separators s = separatorsFrom false s := by
  refine List.filter_congr fun i _ => decide_eq_decide.2 (and_congr_right fun _ => ?_)
  by_cases h : i = 0 <;> simp [h]

/-- The first character may separate; behind it the separators are those of the rest. -/
theorem separatorsFrom_cons (b : Bool) (c : Char) (s : List Char) :
    separatorsFrom b (c :: s) =
      (if c = '|' ∧ b = false then [0] else []) ++ (separatorsFrom (c == '\\') s).map (· + 1) := by
  have hrest : ∀ i, ((c :: s)[i + 1]? = some '|' ∧
      if i + 1 = 0 then b = false else (c :: s)[i + 1 - 1]? ≠ some '\\') ↔
      (s[i]? = some '|' ∧ if i = 0 then (c == '\\') = false else s[i - 1]? ≠ some '\\') := by
    intro i
    cases i <;> simp
  rw [separatorsFrom, List.length_cons, List.range_succ_eq_map, List.filter_cons, List.filter_map]
  simp only [Function.comp_def, Nat.succ_eq_add_one, hrest]
  by_cases h : c = '|' ∧ b = false <;> simp [h, separatorsFrom]

/-- The first character of the rule that starts at a position; an empty rule has none. -/
def leadAt (s : List Char) (k : Nat) : Option Char := if s[k]? = some '|' then none else s[k]?

/-- Without a backslash before the text, its first segment starts where the text does. -/
theorem head?_of_segments_eq {ts : List (List Char)} (h : segments false s = t :: ts) :
    t.head? = leadAt s 0 := by
  cases s with
  | nil => cases h; rfl
  | cons c s =>
    by_cases hc : c = '|'
    · subst hc
      rw [segments_separator] at h
      cases h
      rfl
    · rw [segments_cons (fun hsep => hc hsep.1)] at h
      cases hs : segments (c == '\\') s with
      | nil => exact absurd hs (segments_ne_nil _ _)
      | cons u us =>
        rw [hs] at h
        cases h
        simp [leadAt, hc]

/-- The segments behind the first one start right after the separators. -/
theorem heads_tail_segments (b : Bool) (s : List Char) :
    (segments b s).tail.map List.head? = (separatorsFrom b s).map fun i => leadAt s (i + 1) := by
  induction s generalizing b with
  | nil => rfl
  | cons c s ih =>
    have hshift : ∀ i, leadAt (c :: s) (i + 1) = leadAt s i := fun i => by simp [leadAt]
    rw [separatorsFrom_cons]
    by_cases hc : c = '|' ∧ b = false
    · obtain ⟨rfl, rfl⟩ := hc
      cases hs : segments false s with
      | nil => exact absurd hs (segments_ne_nil _ _)
      | cons t ts =>
        have htail := ih false
        rw [hs, List.tail_cons] at htail
        rw [segments_separator, List.tail_cons, hs, List.map_cons, head?_of_segments_eq hs, htail]
        simp [hshift, Function.comp_def]
    · rw [segments_cons hc, List.tail_modifyHead, ih]
      simp [hshift, hc, Function.comp_def]

/-- **The segments start where the rules do.** -/
theorem heads_segments (s : List Char) :
    (segments false s).map List.head? = (ruleStarts s).map (leadAt s) := by
  cases hs : segments false s with
  | nil => exact absurd hs (segments_ne_nil _ _)
  | cons t ts =>
    have htail := heads_tail_segments false s
    rw [hs, List.tail_cons] at htail
    rw [List.map_cons, head?_of_segments_eq hs, htail, ruleStarts, separators_eq_separatorsFrom]
    simp [Function.comp_def]

/-! ## The first flaw -/

/-- The flaw of a rule with the given first character. -/
def flawOf : Option Char → Option Flaw
  | none => some .emptyRule
  | some c => if c = ',' then some .emptyName else none

/-- The first character of a segment decides on its flaw. -/
theorem segmentInvocation_eq_error_iff_flawOf {flaw : Flaw} :
    segmentInvocation t = .error flaw ↔ flawOf t.head? = some flaw := by
  rw [segmentInvocation_eq_error_iff]
  cases t with
  | nil => simp [flawOf, eq_comm]
  | cons c t => by_cases h : c = ',' <;> simp [flawOf, h, eq_comm]

/-- A segment makes an invocation when its first character is not at fault. -/
theorem segmentInvocation_isOk_iff :
    (∃ i, segmentInvocation t = .ok i) ↔ flawOf t.head? = none := by
  rw [Option.eq_none_iff_forall_ne_some]
  simp only [ne_eq, ← segmentInvocation_eq_error_iff_flawOf]
  cases segmentInvocation t <;> simp

/-- A rule that starts at a position has a flaw when it offends there. -/
theorem flawOf_leadAt_eq_none_iff : flawOf (leadAt s k) = none ↔ ¬ Offends s k := by
  rw [leadAt, Offends]
  cases s[k]? with
  | none => simp [flawOf]
  | some c =>
    by_cases hpipe : c = '|'
    · simp [flawOf, hpipe]
    · simp [flawOf, hpipe]

/-- A comma at the start of a rule is an empty name; every other flaw is an empty rule. -/
theorem flawOf_leadAt_eq_some {flaw : Flaw} (h : flawOf (leadAt s k) = some flaw) :
    flaw = if s[k]? = some ',' then .emptyName else .emptyRule := by
  rw [leadAt] at h
  cases hk : s[k]? with
  | none => rw [hk] at h; cases h; rfl
  | some c =>
    rw [hk] at h
    by_cases hpipe : c = '|'
    · subst hpipe
      cases h
      rfl
    · by_cases hcomma : c = ',' <;> simp_all [flawOf]

/-- The first flaw of a text is that of the leftmost rule that offends. -/
theorem exists_isLeast_of_findSome? {flaw : Flaw}
    (h : (ruleStarts s).findSome? (fun k => flawOf (leadAt s k)) = some flaw) :
    ∃ k, IsLeast {k | k ∈ ruleStarts s ∧ Offends s k} k ∧
      flaw = if s[k]? = some ',' then .emptyName else .emptyRule := by
  obtain ⟨before, k, after, hsplit, hk, hbefore⟩ := List.findSome?_eq_some_iff.1 h
  have hoffends : Offends s k := by
    by_contra hnot
    rw [flawOf_leadAt_eq_none_iff.2 hnot] at hk
    cases hk
  have hsorted := ruleStarts_pairwise s
  rw [hsplit, List.pairwise_append] at hsorted
  refine ⟨k, ⟨⟨by simp [hsplit], hoffends⟩, ?_⟩, flawOf_leadAt_eq_some hk⟩
  rintro j ⟨hj, hjoffends⟩
  rw [hsplit, List.mem_append, List.mem_cons] at hj
  rcases hj with hj | rfl | hj
  · exact absurd hjoffends (flawOf_leadAt_eq_none_iff.1 (hbefore j hj))
  · exact le_rfl
  · exact le_of_lt (List.rel_of_pairwise_cons hsorted.2.1 hj)

end Declaration

open Declaration

variable {d : String}

/-- A declaration is refused for the first flaw of its rules. -/
theorem parseRules_eq_error_iff_findSome? {e : Malformed} :
    parseRules d = .error e ↔ d ≠ "" ∧ e.declaration = d ∧
      (ruleStarts d.toList).findSome? (fun k => flawOf (leadAt d.toList k)) = some e.flaw := by
  have hheads : (ruleStarts d.toList).findSome? (fun k => flawOf (leadAt d.toList k)) =
      (segments false d.toList).findSome? fun t => flawOf t.head? := by
    have := congrArg (List.findSome? flawOf) (heads_segments d.toList)
    rw [List.findSome?_map, List.findSome?_map] at this
    exact this.symm
  rw [parseRules_eq_error_iff, hheads, List.findSome?_eq_some_iff]
  simp only [segmentInvocation_isOk_iff, segmentInvocation_eq_error_iff_flawOf,
    and_comm (a := ∀ _ ∈ _, _)]

/-- A declaration is refused when one of its rules offends. -/
theorem parseRules_isError_iff :
    (∃ e, parseRules d = .error e) ↔ d ≠ "" ∧ ∃ k ∈ ruleStarts d.toList, Offends d.toList k := by
  constructor
  · rintro ⟨e, h⟩
    obtain ⟨hd, -, hflaw⟩ := parseRules_eq_error_iff_findSome?.1 h
    obtain ⟨k, ⟨hk, -⟩, -⟩ := exists_isLeast_of_findSome? hflaw
    exact ⟨hd, k, hk⟩
  · rintro ⟨hd, k, hk, hoffends⟩
    cases hflaw : (ruleStarts d.toList).findSome? fun k => flawOf (leadAt d.toList k) with
    | none =>
      rw [List.findSome?_eq_none_iff] at hflaw
      exact absurd hoffends (flawOf_leadAt_eq_none_iff.1 (hflaw k hk))
    | some flaw => exact ⟨⟨d, flaw⟩, parseRules_eq_error_iff_findSome?.2 ⟨hd, rfl, hflaw⟩⟩

/-- A rule of a text that is not empty offends when the text starts with a pipe or a comma, or when
a separator ends the text or has a pipe or a comma behind it. -/
theorem exists_offends_iff {s : List Char} (hs : s ≠ []) :
    (∃ k ∈ ruleStarts s, Offends s k) ↔ s.head? = some '|' ∨ s.head? = some ',' ∨
      ∃ i, IsSeparator s i ∧ (i + 1 = s.length ∨ s[i + 1]? = some '|' ∨ s[i + 1]? = some ',') := by
  have hstart : Offends s 0 ↔ s.head? = some '|' ∨ s.head? = some ',' := by
    rw [Offends, ← List.head?_eq_getElem?, List.head?_eq_none_iff]
    simp [hs]
  have hbehind : ∀ i, IsSeparator s i → (Offends s (i + 1) ↔
      i + 1 = s.length ∨ s[i + 1]? = some '|' ∨ s[i + 1]? = some ',') := by
    intro i hi
    have hlt : i < s.length := List.mem_range.1 (List.mem_filter.1 (mem_separators.2 hi)).1
    rw [Offends, List.getElem?_eq_none_iff, Nat.le_antisymm_iff, and_iff_right (Nat.succ_le_of_lt hlt)]
  simp only [ruleStarts, List.mem_cons, List.mem_map, mem_separators, exists_eq_or_imp, hstart,
    or_assoc]
  refine or_congr_right (or_congr_right ⟨?_, ?_⟩)
  · rintro ⟨_, ⟨i, hi, rfl⟩, h⟩
    exact ⟨i, hi, (hbehind i hi).1 h⟩
  · rintro ⟨i, hi, h⟩
    exact ⟨_, ⟨i, hi, rfl⟩, (hbehind i hi).2 h⟩

/-- **The grammar of declarations.** A declaration is refused when it starts with a pipe or a comma,
or when a separator ends it or has a pipe or a comma behind it. The complaint shows the whole
declaration and the flaw of its leftmost rule that offends. A declaration that is read and not empty
has one invocation more than separators, each with a usable name. -/
theorem parseRules_grammar (d : String) :
    ((∃ e, parseRules d = .error e) ↔ d ≠ "" ∧
      (d.toList.head? = some '|' ∨ d.toList.head? = some ',' ∨
        ∃ i, IsSeparator d.toList i ∧ (i + 1 = d.toList.length ∨
          d.toList[i + 1]? = some '|' ∨ d.toList[i + 1]? = some ','))) ∧
    (∀ e, parseRules d = .error e → e.declaration = d ∧
      ∃ k, IsLeast {k | k ∈ ruleStarts d.toList ∧ Offends d.toList k} k ∧
        e.flaw.reason = if d.toList[k]? = some ',' then "empty rule name"
          else "empty rule between '|' separators") ∧
    (∀ invocations, parseRules d = .ok invocations → d ≠ "" →
      invocations.length = (separators d.toList).length + 1 ∧
        ∀ i ∈ invocations, i.name ≠ "" ∧ ',' ∉ i.name.toList) := by
  refine ⟨?_, fun e h => ?_, fun invocations h hd => ⟨?_, fun i hi => ?_⟩⟩
  · rw [parseRules_isError_iff]
    exact and_congr_right fun hd => exists_offends_iff (mt String.toList_eq_nil_iff.1 hd)
  · obtain ⟨-, hdeclaration, hflaw⟩ := parseRules_eq_error_iff_findSome?.1 h
    obtain ⟨k, hleast, hk⟩ := exists_isLeast_of_findSome? hflaw
    refine ⟨hdeclaration, k, hleast, ?_⟩
    rw [hk]
    split <;> rfl
  · have hlength := congrArg List.length (heads_segments d.toList)
    rw [List.length_map, List.length_map, ruleStarts, List.length_cons, List.length_map] at hlength
    exact ((parseRules_eq_ok_iff hd).1 h).length_eq.symm.trans hlength
  · obtain ⟨t, -, ht⟩ := exists_of_mem_results ((parseRules_eq_ok_iff hd).1 h) hi
    obtain ⟨hname, hcomma, -⟩ := invocation?_eq_some_iff.1 ht
    exact ⟨hname, hcomma⟩

/-- Of two rules that offend the left one is complained about. -/
theorem parseRules_grammar_leftmost :
    parseRules "a|,b|" = .error ⟨"a|,b|", .emptyName⟩ ∧
      ∃ k, IsLeast {k | k ∈ ruleStarts "a|,b|".toList ∧ Offends "a|,b|".toList k} k ∧
        Flaw.emptyName.reason = if "a|,b|".toList[k]? = some ',' then "empty rule name"
          else "empty rule between '|' separators" :=
  ⟨rfl, ((parseRules_grammar "a|,b|").2.1 _ rfl).2⟩

/-- The reason for an empty rule shows the pipe; it is not worded without it. -/
theorem parseRules_emptyRule_reason :
    ∃ e, parseRules "|a" = .error e ∧
      IsLeast {k | k ∈ ruleStarts "|a".toList ∧ Offends "|a".toList k} 0 ∧
      "|a".toList[0]? = some '|' ∧ e.flaw.reason ≠ "empty rule between separators" :=
  ⟨⟨"|a", .emptyRule⟩, rfl, ⟨⟨.head _, .inr (.inl rfl)⟩, fun _ _ => Nat.zero_le _⟩, rfl, by decide⟩

end RecordRules
