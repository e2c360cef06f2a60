import RecordRules.Pattern.Reader

/-!
# Matching patterns

`Node.run` matches a pattern at a place of a text by trying its choices in order: the first way to
match the pattern after which the rest of the match, the continuation, succeeds. Greedy repetitions
try one more round first, lazy ones try to stop first; a round that matched nothing is the last
one. `Tree.search` looks for the first place where a pattern matches.
-/

namespace RecordRules.Pattern

/-- The places where groups start and end: group `g` starts at entry `2g - 2` and ends at entry
`2g - 1`. -/
abbrev Marks := Array (Option Nat)

/-- What matching yields: the place where the match ends and the groups. -/
abbrev Outcome := Option (Nat × Marks)

/-- The rest of a match, tried at a place. -/
abbrev Continuation := Nat → Marks → Outcome

namespace Marks

/-- The place where a group starts. -/
def groupStart (m : Marks) (group : Nat) : Option Nat := (m[2 * group - 2]?).join

/-- The place where a group ends. -/
def groupEnd (m : Marks) (group : Nat) : Option Nat := (m[2 * group - 1]?).join

/-- The span of a group that has matched. -/
def span? (m : Marks) (group : Nat) : Option (Nat × Nat) :=
  match m.groupStart group, m.groupEnd group with
  | some first, some last => if first ≤ last then some (first, last) else none
  | _, _ => none

/-- Marks the start of a group. -/
def markStart (m : Marks) (group place : Nat) : Marks := m.setIfInBounds (2 * group - 2) (some place)

/-- Marks the end of a group. -/
def markEnd (m : Marks) (group place : Nat) : Marks := m.setIfInBounds (2 * group - 1) (some place)

end Marks

/-- Success as it stands. -/
def accept : Continuation := fun place marks => some (place, marks)

/-- A repetition may go on after a number of rounds. -/
def mayRepeat (most : Option Nat) (rounds : Nat) : Bool :=
  match most with
  | some n => rounds < n
  | none => true

/-! ## Conditions on a place -/

/-- The character before a place. -/
def before? (text : Array Char) (place : Nat) : Option Char :=
  if place = 0 then none else text[place - 1]?

/-- A word starts or ends at a place. An empty text has no such place and no other. -/
def atBoundary (text : Array Char) (negated asciiOnly : Bool) (place : Nat) : Bool :=
  let isWord (c : Option Char) : Bool := c.any (Category.word.has asciiOnly)
  !text.isEmpty && ((isWord (before? text place) != isWord text[place]?) != negated)

/-- A condition holds at a place. -/
def Anchor.holds (text : Array Char) (place : Nat) : Anchor → Bool
  | textStart => place = 0
  | lineStart => place = 0 || before? text place == some '\n'
  | textEnd => place = text.size
  | lastLineEnd => place = text.size || (place + 1 = text.size && text[place]? == some '\n')
  | lineEnd => place = text.size || text[place]? == some '\n'
  | boundary negated asciiOnly => atBoundary text negated asciiOnly place

/-! ## Repetition of one character -/

/-- The number of characters from a place on, at most `n`, that a leaf accepts. -/
def runLength (text : Array Char) (leaf : Leaf) : Nat → Nat → Nat
  | 0, _ => 0
  | n + 1, place =>
    match text[place]? with
    | some c => if leaf.accepts c then runLength text leaf n (place + 1) + 1 else 0
    | none => 0

/-- Tries the continuation `extra` characters after a place, then one character less, and so on. -/
def giveBack (k : Continuation) (place : Nat) (marks : Marks) : Nat → Outcome
  | 0 => k place marks
  | extra + 1 =>
    match k (place + (extra + 1)) marks with
    | some r => some r
    | none => giveBack k place marks extra

/-- Tries the continuation at a place, then one character later, and so on up to `extra`
characters. -/
def takeMore (k : Continuation) (marks : Marks) : Nat → Nat → Outcome
  | 0, place => k place marks
  | extra + 1, place =>
    match k place marks with
    | some r => some r
    | none => takeMore k marks extra (place + 1)

/-- Repeats one character. -/
def repeatLeaf (text : Array Char) (appetite : Appetite) (least : Nat) (most : Option Nat)
    (leaf : Leaf) (k : Continuation) : Continuation := fun place marks =>
  let room := text.size - place
  let length := runLength text leaf (most.elim room (min room)) place
  if length < least then none
  else
    match appetite with
    | .greedy => giveBack k (place + least) marks (length - least)
    | .lazy => takeMore k marks (length - least) (place + least)
    | .possessive => k (place + length) marks

/-! ## Repetition of other patterns

Each takes the body as a function of the continuation. The last argument but two is the number of
rounds done and the last one the place where the latest optional round began; a round that ends
where it began is the last. `fuel` bounds the number of rounds: beyond the required ones each round
but the last moves on in the text. -/

/-- Repeats as often as possible first. -/
def repeatGreedy (body : Continuation → Continuation) (least : Nat) (most : Option Nat)
    (k : Continuation) : (fuel rounds : Nat) → (latest : Option Nat) → Continuation
  | 0, _, _ => fun _ _ => none
  | fuel + 1, rounds, latest => fun place marks =>
    if rounds < least then
      body (repeatGreedy body least most k fuel (rounds + 1) latest) place marks
    else if mayRepeat most rounds && latest != some place then
      match body (repeatGreedy body least most k fuel (rounds + 1) (some place)) place marks with
      | some r => some r
      | none => k place marks
    else k place marks

/-- Repeats as seldom as possible first. -/
def repeatLazy (body : Continuation → Continuation) (least : Nat) (most : Option Nat)
    (k : Continuation) : (fuel rounds : Nat) → (latest : Option Nat) → Continuation
  | 0, _, _ => fun _ _ => none
  | fuel + 1, rounds, latest => fun place marks =>
    if rounds < least then
      body (repeatLazy body least most k fuel (rounds + 1) latest) place marks
    else
      match k place marks with
      | some r => some r
      | none =>
        if mayRepeat most rounds && latest != some place then
          body (repeatLazy body least most k fuel (rounds + 1) (some place)) place marks
        else none

/-- Repeats as often as possible and gives nothing back. -/
def repeatPossessive (body : Continuation → Continuation) (least : Nat) (most : Option Nat) :
    (fuel rounds : Nat) → (latest : Option Nat) → Continuation
  | 0, _, _ => fun _ _ => none
  | fuel + 1, rounds, latest => fun place marks =>
    if rounds < least then
      match body accept place marks with
      | some (q, marks') => repeatPossessive body least most fuel (rounds + 1) latest q marks'
      | none => none
    else if mayRepeat most rounds && latest != some place then
      match body accept place marks with
      | some (q, marks') =>
        repeatPossessive body least most fuel (rounds + 1) (some place) q marks'
      | none => some (place, marks)
    else some (place, marks)

/-- Repeats a pattern given as a function of the continuation. -/
def repeatBody (text : Array Char) (appetite : Appetite) (least : Nat) (most : Option Nat)
    (body : Continuation → Continuation) (k : Continuation) : Continuation := fun place marks =>
  let fuel := least + text.size + 2
  match appetite with
  | .greedy => repeatGreedy body least most k fuel 0 none place marks
  | .lazy => repeatLazy body least most k fuel 0 none place marks
  | .possessive =>
    match repeatPossessive body least most fuel 0 none place marks with
    | some (q, marks') => k q marks'
    | none => none

/-! ## Patterns -/

/-- The text of a group comes again at a place. -/
def comesAgain (text : Array Char) (casing : Casing) : (n first place : Nat) → Bool
  | 0, _, _ => true
  | n + 1, first, place =>
    match text[first]?, text[place]? with
    | some c, some d =>
      (match casing with
        | .exact => c == d
        | .ascii => Text.lowerAscii c.toNat == Text.lowerAscii d.toNat
        | .unicode => Text.lowerCode c.toNat == Text.lowerCode d.toNat) &&
      comesAgain text casing n (first + 1) (place + 1)
    | _, _ => false

/-- Matches a pattern at a place, and goes on with the continuation. -/
def Node.run (text : Array Char) : Node → Continuation → Continuation
  | .empty, k => k
  | .leaf u, k => fun place marks =>
    match text[place]? with
    | some c => if u.accepts c then k (place + 1) marks else none
    | none => none
  | .anchor a, k => fun place marks => if a.holds text place then k place marks else none
  | .seq a b, k => a.run text (b.run text k)
  | .alt a b, k => fun place marks =>
    match a.run text k place marks with
    | some r => some r
    | none => b.run text k place marks
  | .capture group body, k => fun place marks =>
    body.run text (fun q marks' => k q (marks'.markEnd group q)) place
      (marks.markStart group place)
  | .repeated appetite least most (.leaf u), k => repeatLeaf text appetite least most u k
  | .repeated appetite least most body, k =>
    repeatBody text appetite least most (body.run text) k
  | .atomic body, k => fun place marks =>
    match body.run text accept place marks with
    | some (q, marks') => k q marks'
    | none => none
  | .ahead negated body, k => fun place marks =>
    match body.run text accept place marks with
    | some (_, marks') => if negated then none else k place marks'
    | none => if negated then k place marks else none
  | .behind negated distance body, k => fun place marks =>
    if place < distance then (if negated then k place marks else none)
    else
      match body.run text accept (place - distance) marks with
      | some (_, marks') => if negated then none else k place marks'
      | none => if negated then k place marks else none
  | .backref casing group _, k => fun place marks =>
    match marks.span? group with
    | some (first, last) =>
      if comesAgain text casing (last - first) first place then k (place + (last - first)) marks
      else none
    | none => none
  | .conditional group present absent, k => fun place marks =>
    if (marks.span? group).isSome then present.run text k place marks
    else absent.run text k place marks

/-- A match: its span and the spans of the groups that took part. -/
structure Match where
  first : Nat
  last : Nat
  groups : List (Option (Nat × Nat))
  deriving Repr

namespace Tree

/-- Matches a pattern at a place of a text. -/
def matchAt? (tree : Tree) (text : Array Char) (place : Nat) : Option Match :=
  (tree.root.run text accept place (Array.replicate (2 * tree.groups) none)).map
    fun (last, marks) =>
      ⟨place, last, (List.range tree.groups).map fun i => marks.span? (i + 1)⟩

/-- Looks for a match from a place on, trying at most `n` more places after it. -/
def searchFrom (tree : Tree) (text : Array Char) : (n place : Nat) → Option Match
  | 0, place => tree.matchAt? text place
  | n + 1, place =>
    match tree.matchAt? text place with
    | some m => some m
    | none => searchFrom tree text n (place + 1)

/-- The first match in a text. -/
def search (tree : Tree) (text : List Char) : Option Match :=
  searchFrom tree text.toArray text.length 0

end Tree

end RecordRules.Pattern
