import RecordRules.Pattern.Matcher
import RecordRules.Proofs.Number.Literal
import RecordRules.Proofs.Pattern.Casing

/-!
# Texts that patterns take

A pattern takes a text before another one if a match that can go on after the text does go on there
(`Pattern.Node.Takes`): no other way to match comes first. What a match does first is said once for each kind of
pattern (`Pattern.Node.run_seq` and its like). Characters are taken by their leaves, and texts one after the
other by sequences (`Pattern.Node.Takes.seq`). Of two alternatives the first takes what it can, and
the second what the first refuses because of the character that comes first (`Pattern.Node.Refuses`). A group
marks what its body takes (`Pattern.Node.Takes.capture`). Conversely, a match of a sequence begins with a match
of its first part (`Pattern.Node.accepts_of_isSome_leaf_seq`).
-/

namespace RecordRules.Pattern

/-- What a match does to the marks, given the place where it begins. -/
abbrev Effect := Nat → Marks → Marks

namespace Effect

/-- The marks stay as they are. -/
def keep : Effect := fun _ marks => marks

/-- A group takes so many characters. -/
def group (group width : Nat) : Effect := fun place marks =>
  (marks.markStart group place).markEnd group (place + width)

/-- One after the other, the second so many characters later. -/
def andThen (width : Nat) (first second : Effect) : Effect := fun place marks =>
  second (place + width) (first place marks)

end Effect

namespace Node

/-- A node takes a text that is followed by another: a match that can go on after the text does so. -/
def Takes (node : Node) (s after : List Char) (effect : Effect) : Prop :=
  ∀ (before : List Char) (k : Continuation) (marks : Marks),
    (k (before.length + s.length) (effect before.length marks)).isSome = true →
      node.run (before ++ (s ++ after)).toArray k before.length marks =
        k (before.length + s.length) (effect before.length marks)

/-- A node refuses every text that begins with a character. -/
def Refuses (node : Node) (c : Char) : Prop :=
  ∀ (before after : List Char) (k : Continuation) (marks : Marks),
    node.run (before ++ c :: after).toArray k before.length marks = none

/-! ## One step of a match -/

section
variable (text : Array Char) (a b : Node) (k : Continuation)

/-- A leaf matches one character that it accepts, and goes on after it. -/
theorem run_leaf (u : Leaf) : (leaf u).run text k = fun place marks =>
    match text[place]? with
    | some c => if u.accepts c then k (place + 1) marks else none
    | none => none := rfl

/-- A sequence goes on with its second part. -/
theorem run_seq : (seq a b).run text k = a.run text (b.run text k) := rfl

/-- The second alternative is tried where the first one leads to no match. -/
theorem run_alt : (alt a b).run text k = fun place marks =>
    match a.run text k place marks with
    | some r => some r
    | none => b.run text k place marks := rfl

/-- A group marks where its body begins and ends. -/
theorem run_capture (group : Nat) : (capture group a).run text k = fun place marks =>
    a.run text (fun q marks' => k q (marks'.markEnd group q)) place (marks.markStart group place) := rfl

/-- A repeated leaf has a loop of its own. -/
theorem run_repeated_leaf (appetite : Appetite) (least : Nat) (most : Option Nat) (u : Leaf) :
    (repeated appetite least most (leaf u)).run text k = repeatLeaf text appetite least most u k := rfl

end

section
variable {a b : Node} {u : Leaf} {s t after : List Char} {f g : Effect} {c : Char}

/-- The character after the text that stands before it. -/
theorem getElem?_at (before after : List Char) (c : Char) :
    (before ++ c :: after).toArray[before.length]? = some c := by
  rw [List.getElem?_toArray, List.getElem?_append_right (Nat.le_refl _), Nat.sub_self]
  rfl

/-! ## Characters -/

/-- A leaf at a given character. -/
theorem run_leaf_at (before after : List Char) (k : Continuation) (marks : Marks) :
    (leaf u).run (before ++ c :: after).toArray k before.length marks =
      if u.accepts c then k (before.length + 1) marks else none := by
  simp only [run_leaf, getElem?_at]

/-- A leaf takes a character that it accepts. -/
theorem takes_leaf (h : u.accepts c = true) : (leaf u).Takes [c] after .keep := by
  intro before k marks _
  rw [List.singleton_append, run_leaf_at, if_pos h]
  rfl

/-- A leaf refuses a character that it does not accept. -/
theorem refuses_leaf (h : u.accepts c = false) : (leaf u).Refuses c := by
  intro before after k marks
  rw [run_leaf_at, h]
  rfl

/-! ## Sequences and alternatives -/

/-- A sequence takes what its parts take one after the other. -/
theorem Takes.seq {width : Nat} (ha : a.Takes s (t ++ after) f) (hb : b.Takes t after g)
    (hs : s.length = width) : (seq a b).Takes (s ++ t) after (.andThen width f g) := by
  subst hs
  intro before k marks hk
  have hplace : before.length + (s ++ t).length = (before ++ s).length + t.length := by
    simp only [List.length_append]
    omega
  have hbegin : (before ++ s).length = before.length + s.length := List.length_append
  have htext : before ++ (s ++ t ++ after) = before ++ (s ++ (t ++ after)) := by
    rw [List.append_assoc]
  have htext' : before ++ (s ++ (t ++ after)) = before ++ s ++ (t ++ after) := by
    rw [List.append_assoc]
  -- The first part goes on to the second, which begins after it.
  have hsecond := hb (before ++ s) k (f before.length marks)
  rw [← hplace, ← htext', hbegin] at hsecond
  have hnext := hsecond hk
  have hfirst := ha before (b.run (before ++ (s ++ (t ++ after))).toArray k) marks
  rw [hnext] at hfirst
  rw [run_seq, htext]
  exact hfirst hk

/-- A sequence refuses what its first part refuses. -/
theorem Refuses.seq (h : a.Refuses c) : (seq a b).Refuses c := by
  intro before after k marks
  rw [run_seq]
  exact h before after _ marks

/-- The first alternative is taken wherever it can be. -/
theorem Takes.alt_left (h : a.Takes s after f) : (alt a b).Takes s after f := by
  intro before k marks hk
  have ha := h before k marks hk
  obtain ⟨outcome, houtcome⟩ := Option.isSome_iff_exists.1 hk
  simp only [run_alt, ha, houtcome]

/-- The second alternative is taken where the first one refuses to begin. -/
theorem Takes.alt_right (hrefuses : a.Refuses c) (h : b.Takes (c :: s) after f) :
    (alt a b).Takes (c :: s) after f := by
  intro before k marks hk
  have ha := hrefuses before (s ++ after) k marks
  simp only [run_alt, List.cons_append, ha]
  exact h before k marks hk

/-! ## Groups and runs -/

/-- A group takes what its body takes, and marks it. -/
theorem Takes.capture {width : Nat} (h : a.Takes s after .keep) (group : Nat) (hs : s.length = width) :
    (capture group a).Takes s after (.group group width) := by
  subst hs
  intro before k marks hk
  rw [run_capture]
  exact h before _ (marks.markStart group before.length) hk

/-- One character is all that a run takes if the next one is of another kind. -/
theorem takes_repeated (h : u.accepts c = true) (hnext : ∀ d ∈ after.head?, u.accepts d = false) :
    (repeated .greedy 1 none (leaf u)).Takes [c] after .keep := by
  intro before k marks _
  have hroom : (before ++ c :: after).toArray.size - before.length = after.length + 1 := by
    simp
  have hstop : runLength (before ++ c :: after).toArray u after.length (before.length + 1) = 0 := by
    cases after with
    | nil => rfl
    | cons d rest =>
      have hat : (before ++ c :: d :: rest).toArray[before.length + 1]? = some d := by
        simp
      rw [List.length_cons, runLength, hat]
      simp [hnext d rfl]
  have hlength : runLength (before ++ c :: after).toArray u (after.length + 1) before.length = 1 := by
    rw [runLength, getElem?_at]
    simp [h, hstop]
  rw [List.singleton_append, run_repeated_leaf, repeatLeaf, hroom]
  simp only [Option.elim_none, hlength]
  rfl

/-! ## What a match begins with -/

variable {text : Array Char} {k : Continuation} {marks : Marks} {place : Nat}

/-- A leaf that matches has a character to accept, and the match goes on after it. -/
theorem accepts_of_isSome_leaf (h : ((leaf u).run text k place marks).isSome = true) :
    ∃ c, text[place]? = some c ∧ u.accepts c = true ∧ (k (place + 1) marks).isSome = true := by
  simp only [run_leaf] at h
  split at h
  · next c hc =>
    split at h
    · next haccepts => exact ⟨c, hc, haccepts, h⟩
    · cases h
  · cases h

/-- A match of a sequence that begins with a character goes on after it. -/
theorem accepts_of_isSome_leaf_seq (h : ((seq (leaf u) b).run text k place marks).isSome = true) :
    ∃ c, text[place]? = some c ∧ u.accepts c = true ∧ (b.run text k (place + 1) marks).isSome = true := by
  rw [run_seq] at h
  exact accepts_of_isSome_leaf h

/-- A match of a sequence that begins with a group has a match of the group's body. -/
theorem isSome_of_isSome_capture_seq {group : Nat}
    (h : ((seq (capture group a) b).run text k place marks).isSome = true) :
    ∃ k' marks', (a.run text k' place marks').isSome = true := by
  rw [run_seq, run_capture] at h
  exact ⟨_, _, h⟩

end

end Node

/-- A text that the root takes is matched as a whole, and the groups are as marked. -/
theorem Tree.matchAt?_of_takes {tree : Tree} {s : List Char} {effect : Effect}
    (h : tree.root.Takes s [] effect) : tree.matchAt? s.toArray 0 =
      some ⟨0, s.length, (List.range tree.groups).map fun i =>
        (effect 0 (Array.replicate (2 * tree.groups) none)).span? (i + 1)⟩ := by
  have hrun := h [] accept (Array.replicate (2 * tree.groups) none) rfl
  rw [List.nil_append, List.append_nil, List.length_nil, Nat.zero_add] at hrun
  rw [matchAt?, hrun]
  rfl

end RecordRules.Pattern
