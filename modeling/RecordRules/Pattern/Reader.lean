import RecordRules.Pattern.Escape

/-!
# Reading patterns

`Tree.read` turns the text of a pattern into a tree. The reader goes through the tokens once and
keeps the open groups on a stack, so every round of `Reader.rounds` consumes at least one token and
patterns may be nested to any depth; `ofParam` leaves out those for which there is no room. What can
only be seen on the whole tree is checked after that: a look-behind must have one width.
-/

namespace RecordRules.Pattern

/-- What a piece of a pattern is to a repetition sign after it. -/
inductive Role
  | plain
  | anchor
  | repetition
  deriving DecidableEq

/-- A piece of a pattern: something that a repetition sign may apply to. -/
structure Piece where
  node : Node
  role : Role

/-- A group, or the whole pattern, while it is read: its flags, its finished branches and the
pieces of the branch in progress, both last first. -/
structure Level where
  flags : Flags
  verbose : Bool
  branches : List Node
  pieces : List Piece

/-- What becomes of a group when it is closed. -/
inductive Wrapper
  | plain
  | capture (group : Nat)
  | atomic
  | ahead (negated : Bool)
  | behind (negated outermost : Bool)
  | conditional (group : Nat)

/-- An open group: where it starts, what becomes of it, and the level around it. -/
structure Frame where
  start : Nat
  wrapper : Wrapper
  outer : Level

/-- The state of the reader. -/
structure Reader where
  cursor : Cursor
  flags : Flags
  groups : Groups
  level : Level
  frames : List Frame

namespace Level

/-- An empty level. -/
def empty (flags : Flags) (verbose : Bool) : Level := ⟨flags, verbose, [], []⟩

/-- Adds a piece to the branch in progress. -/
def push (l : Level) (node : Node) (role : Role) : Level :=
  { l with pieces := ⟨node, role⟩ :: l.pieces }

/-- The branch in progress as one node. -/
def branch (l : Level) : Node :=
  match l.pieces with
  | [] => .empty
  | last :: before => before.foldl (fun acc piece => .seq piece.node acc) last.node

/-- Finishes the branch in progress and starts another. -/
def nextBranch (l : Level) : Level := { l with branches := l.branch :: l.branches, pieces := [] }

/-- The alternatives of a level as one node. -/
def node (l : Level) : Node := l.branches.foldl (fun acc branch => .alt branch acc) l.branch

end Level

namespace Reader

/-- The reader with a piece added. -/
def push (r : Reader) (cursor : Cursor) (node : Node) (role : Role := .plain) : Reader :=
  { r with cursor := cursor, level := r.level.push node role }

/-- The reader inside a new group. -/
def enter (r : Reader) (cursor : Cursor) (start : Nat) (wrapper : Wrapper) (flags : Flags)
    (verbose : Bool) : Reader :=
  { r with
    cursor := cursor
    level := .empty flags verbose
    frames := ⟨start, wrapper, r.level⟩ :: r.frames }

/-! ## Character sets -/

/-- Adds a member to a set that does not have it. -/
def addMember (members : List Member) (m : Member) : List Member :=
  if members.contains m then members else members ++ [m]

/-- The code point of a member that is a single character. -/
def single? : Member → Option Nat
  | .single code => some code
  | _ => none

/-- Reads a member of a set whose token has been taken. -/
def member (flags : Flags) (token : List Char) (c : Cursor) : Reading (Member × Cursor) :=
  match token with
  | ['\\', letter] => classEscape flags letter c
  | char :: _ => .ok (.single char.toNat, c)
  | [] => .ok (.single 0, c)

/-- Reads the members of a set up to its closing bracket; `start` is the place of the opening one
and `n` bounds the number of members. -/
def members (flags : Flags) (start : Nat) :
    Nat → List Member → Cursor → Reading (List Member × Cursor)
  | 0, _, _ => Cursor.failAt start .unterminatedSet
  | n + 1, found, c => do
    let token := c.next
    let after ← c.advance
    if token.isEmpty then Cursor.failAt start .unterminatedSet
    else if token == [']'] && !found.isEmpty then return (found, after)
    else
      let (first, c) ← member flags token after
      let (dash, c) ← c.skip? '-'
      if !dash then members flags start n (addMember found first) c
      else
        let lastToken := c.next
        let after ← c.advance
        if lastToken.isEmpty then Cursor.failAt start .unterminatedSet
        else if lastToken == [']'] then
          return (addMember (addMember found first) (.single '-'.toNat), after)
        else
          let (last, c) ← member flags lastToken after
          let bad : Reading (List Member × Cursor) :=
            c.fail (.badRange (.ofList token) (.ofList lastToken))
              (token.length + 1 + lastToken.length)
          match single? first, single? last with
          | some lo, some hi =>
            if hi < lo then bad else members flags start n (addMember found (.range lo hi)) c
          | _, _ => bad

/-- The node of a set; a set of one character is that character. -/
def setNode (casing : Casing) (negated : Bool) : List Member → Node
  | [.single code] => .leaf (.char casing negated code)
  | found => .leaf (.set casing negated found)

/-- Reads a character set whose opening bracket has been taken. -/
def set (r : Reader) (c : Cursor) : Reading Reader := do
  let start := c.place - 1
  let (negated, c) ← c.skip? '^'
  let (found, c) ← members r.level.flags start (c.left + 1) [] c
  return r.push c (setNode r.level.flags.casing negated found)

/-! ## Repetition -/

/-- The bound of repetition counts. -/
def countLimit : Nat := 4294967295

/-- A repetition count, if it is within bounds. -/
def count (digits : List Char) : Reading Nat :=
  let n := valueIn 10 digits
  if n < countLimit then .ok n else .error .repetitionTooLarge

/-- Reads counts in braces whose opening brace has been taken; `none` if this is no repetition. -/
def braces? (c : Cursor) : Reading (Option (Nat × Option Nat × Cursor)) := do
  if c.sees '\x7d' then return none
  else
    let (low, afterLow) ← c.takeWhile Char.isDigit c.left
    let (comma, afterComma) ← afterLow.skip? ','
    let (high, afterHigh) ←
      if comma then afterComma.takeWhile Char.isDigit afterComma.left
      else pure (low, afterComma)
    let (closed, after) ← afterHigh.skip? '\x7d'
    if !closed then return none
    else
      let least ← if low.isEmpty then pure 0 else count low
      if high.isEmpty then return some (least, none, after)
      else
        let most ← count high
        if most < least then Cursor.failAt c.place .minAboveMax
        else return some (least, some most, after)

/-- Repeats the last piece; `here` is the place after the repetition sign. -/
def repeatLast (r : Reader) (here : Nat) (least : Nat) (most : Option Nat) (c : Cursor) :
    Reading Reader := do
  match r.level.pieces with
  | [] => Cursor.failAt (here - 1) .nothingToRepeat
  | last :: before =>
    match last.role with
    | .anchor => Cursor.failAt (here - 1) .nothingToRepeat
    | .repetition => Cursor.failAt (here - 1) .multipleRepeat
    | .plain =>
      let (lazy, c) ← c.skip? '?'
      let (possessive, c) ← if lazy then pure (false, c) else c.skip? '+'
      let appetite : Appetite :=
        if lazy then .lazy else if possessive then .possessive else .greedy
      let piece : Piece := ⟨.repeated appetite least most last.node, .repetition⟩
      return { r with cursor := c, level := { r.level with pieces := piece :: before } }

/-! ## Groups -/

/-- Reads a group name up to its terminator. -/
def groupName (c : Cursor) (terminator : Char) : Reading (List Char × Cursor) := do
  let (name, after) ← c.takeName terminator "group name"
  if Text.isIdentifier name then return (name, after)
  else after.fail (.badGroupName (.ofList name)) (name.length + 1)

/-- Opens a group that captures what it matches. -/
def openCapture (r : Reader) (c : Cursor) (start : Nat) (name : Option (List Char)) :
    Reading Reader := do
  let group := r.groups.count
  let names ← match name with
    | none => pure r.groups.names
    | some name =>
      match r.groups.names.lookup (.ofList name) with
      | some earlier =>
        c.fail (.redefinedGroup (.ofList name) group earlier) (name.length + 1)
      | none => pure ((String.ofList name, group) :: r.groups.names)
  let groups := { r.groups with widths := r.groups.widths ++ [none], names := names }
  return { r with groups := groups }.enter c start (.capture group) r.level.flags r.level.verbose

/-- Reads a reference to a named group. -/
def namedReference (r : Reader) (c : Cursor) : Reading Reader := do
  let (name, c) ← groupName c ')'
  match r.groups.names.lookup (.ofList name) with
  | none => c.fail (.unknownGroupName (.ofList name)) (name.length + 1)
  | some group =>
    match r.groups.closedWidth? group with
    | none => c.fail .openGroup (name.length + 1)
    | some width =>
      r.groups.checkLookbehind group c
      return r.push c (.backref r.level.flags.casing group width)

/-- Skips a comment group whose start has been taken; `n` bounds the number of tokens. -/
def comment (start : Nat) : Nat → Cursor → Reading Cursor
  | 0, _ => Cursor.failAt start .unterminatedComment
  | n + 1, c => do
    if c.atEnd then Cursor.failAt start .unterminatedComment
    else
      let after ← c.advance
      if c.sees ')' then return after else comment start n after

/-- The greatest number a group may have. -/
def groupLimit : Nat := 1073741823

/-- Reads the condition of a conditional group: the name or the number of a group. -/
def condition (r : Reader) (c : Cursor) : Reading (Nat × Groups × Cursor) := do
  let (name, c) ← c.takeName ')' "group name"
  let back := name.length + 1
  if Text.isIdentifier name then
    match r.groups.names.lookup (.ofList name) with
    | none => c.fail (.unknownGroupName (.ofList name)) back
    | some group => return (group, r.groups, c)
  else
    match Number.readInteger? name with
    | some (.ofNat group) =>
      if group = 0 then c.fail .badGroupNumber back
      else if groupLimit ≤ group then c.fail (.invalidReference group) back
      else
        let places := r.groups.conditions
        let places :=
          if (places.lookup group).isSome then places else places ++ [(group, c.place - back)]
        return (group, { r.groups with conditions := places }, c)
    | _ => c.fail (.badGroupName (.ofList name)) back

/-- Reads flags to be added, from the one in `letter` on. The token that ends them is returned. -/
def addedFlags : Nat → Flags → List Char → Cursor → Reading (Flags × List Char × Cursor)
  | 0, _, _, c => c.fail .unfinishedFlags 0
  | n + 1, flags, token, c => do
    if token == ['L'] then c.fail .localeFlag 0
    else
      let flag := (match token with
        | [letter] => Flags.ofLetter? letter
        | _ => none).getD {}
      let flags := flags.union flag
      if flag.choosesClasses && flags.ascii && flags.unicode then c.fail .conflictingFlags 0
      else
        let next := c.next
        let after ← c.advance
        match next with
        | [] => after.fail .unfinishedFlags 0
        | [char] =>
          if char == ')' || char == '-' || char == ':' then return (flags, next, after)
          else if (Flags.ofLetter? char).isSome || char == 'L' then
            addedFlags n flags next after
          else after.fail (if Text.isLetter char then .unknownFlag else .unfinishedFlags) 1
        | _ => after.fail .unfinishedFlags next.length

/-- Reads flags to be removed, from the one in `token` on, up to the colon. -/
def removedFlags : Nat → Flags → Char → Cursor → Reading (Flags × Cursor)
  | 0, _, _, c => c.fail .missingColon 0
  | n + 1, flags, letter, c => do
    let flag := (Flags.ofLetter? letter).getD {}
    if letter == 'L' || flag.choosesClasses then c.fail .typeFlagOff 0
    else
      let flags := flags.union flag
      let next := c.next
      let after ← c.advance
      match next with
      | [] => after.fail .missingColon 0
      | [char] =>
        if char == ':' then return (flags, after)
        else if (Flags.ofLetter? char).isSome || char == 'L' then removedFlags n flags char after
        else after.fail (if Text.isLetter char then .unknownFlag else .missingColon) 1
      | _ => after.fail .missingColon next.length

/-- Two sets of flags have a flag in common. -/
def overlap (f g : Flags) : Bool := f.without (f.without g) != {}

/-- Reads the flags at the start of a group, from the token on: flags for the whole pattern, or the
flags added and removed for the group. -/
def groupFlags (token : List Char) (c : Cursor) :
    Reading ((Flags ⊕ (Flags × Flags)) × Cursor) := do
  let bound := c.left + 1
  let (add, ending, c) ←
    if token == ['-'] then pure (({} : Flags), token, c) else addedFlags bound {} token c
  if ending == [')'] then return (.inl add, c)
  else if add.template then c.fail .globalFlagOn 1
  else
    let (remove, c) ←
      if ending == ['-'] then
        let next := c.next
        let after ← c.advance
        match next with
        | [] => after.fail .missingFlag 0
        | [char] =>
          if (Flags.ofLetter? char).isSome || char == 'L' then removedFlags bound {} char after
          else after.fail (if Text.isLetter char then .unknownFlag else .missingFlag) 1
        | _ => after.fail .missingFlag next.length
      else pure (({} : Flags), c)
    if remove.template then c.fail .globalFlagOff 1
    else if overlap add remove then c.fail .flagOnAndOff 1
    else return (.inr (add, remove), c)

/-- Reads the start of a group with flags. -/
def flagGroup (r : Reader) (start : Nat) (token : List Char) (c : Cursor) : Reading Reader := do
  let (flags, c) ← groupFlags token c
  match flags with
  | .inl add =>
    if !(r.frames.isEmpty && r.level.branches.isEmpty && r.level.pieces.isEmpty) then
      Cursor.failAt start .misplacedFlags
    else
      let all := r.flags.union add
      return { r with
        cursor := c
        flags := all
        level := { r.level with flags := all, verbose := all.verbose } }
  | .inr (add, remove) =>
    let verbose := (r.level.verbose || add.verbose) && !remove.verbose
    return r.enter c start .plain (r.level.flags.inGroup add remove) verbose

/-- Opens a look-behind. -/
def openBehind (r : Reader) (c : Cursor) (start : Nat) (negated : Bool) : Reader :=
  let outermost := r.groups.lookbehind.isNone
  let groups :=
    if outermost then { r.groups with lookbehind := some r.groups.count } else r.groups
  { r with groups := groups }.enter c start (.behind negated outermost) r.level.flags
    r.level.verbose

/-- Reads what follows `(?`. -/
def extension (r : Reader) (start : Nat) (c : Cursor) : Reading Reader := do
  let token := c.next
  let c ← c.advance
  let inside (wrapper : Wrapper) : Reader :=
    r.enter c start wrapper r.level.flags r.level.verbose
  match token with
  | [] => c.fail .unexpectedEnd 0
  | ['P'] =>
    if c.sees '<' then
      let (name, c) ← groupName (← c.advance) '>'
      r.openCapture c start (some name)
    else if c.sees '=' then r.namedReference (← c.advance)
    else
      let next := c.next
      let c ← c.advance
      if next.isEmpty then c.fail .unexpectedEnd 0
      else c.fail (.unknownExtension (.ofList ('P' :: next))) (next.length + 2)
  | [':'] => return inside .plain
  | ['#'] => return { r with cursor := ← comment start (c.left + 1) c }
  | ['='] => return inside (.ahead false)
  | ['!'] => return inside (.ahead true)
  | ['<'] =>
    let next := c.next
    let c ← c.advance
    if next.isEmpty then c.fail .unexpectedEnd 0
    else if next == ['='] then return r.openBehind c start false
    else if next == ['!'] then return r.openBehind c start true
    else c.fail (.unknownExtension (.ofList ('<' :: next))) (next.length + 2)
  | ['('] =>
    let (group, groups, c) ← r.condition c
    groups.checkLookbehind group c
    return { r with groups := groups }.enter c start (.conditional group) r.level.flags
      r.level.verbose
  | ['>'] => return inside .atomic
  | [char] =>
    if (Flags.ofLetter? char).isSome || char == 'L' || char == '-' then
      r.flagGroup start token c
    else c.fail (.unknownExtension (.ofList token)) 2
  | _ => c.fail (.unknownExtension (.ofList token)) (token.length + 1)

/-- Reads the start of a group whose opening parenthesis has been taken. -/
def openGroup (r : Reader) (c : Cursor) : Reading Reader := do
  let start := c.place - 1
  let (special, c) ← c.skip? '?'
  if special then r.extension start c else r.openCapture c start none

/-- Closes the innermost group; the cursor stands before its closing parenthesis. -/
def close (r : Reader) (frame : Frame) (frames : List Frame) : Reading Reader := do
  let c ← r.cursor.advance
  let inner := r.level.node
  let outer := { r with level := frame.outer, frames := frames }
  match frame.wrapper with
  | .plain => return outer.push c inner
  | .capture group =>
    let widths := r.groups.widths.set group (some inner.width)
    return { outer with groups := { r.groups with widths := widths } }.push c
      (.capture group inner)
  | .atomic => return outer.push c (.atomic inner)
  | .ahead negated => return outer.push c (.ahead negated inner)
  | .behind negated outermost =>
    let groups := if outermost then { r.groups with lookbehind := none } else r.groups
    return { outer with groups := groups }.push c (.behind negated inner.width.1 inner)
  | .conditional group =>
    let (present, absent) := match r.level.branches with
      | [] => (inner, Node.empty)
      | first :: _ => (first, r.level.branch)
    return outer.push c (.conditional group present absent)

/-! ## Tokens -/

/-- White space that verbose patterns pass over. -/
def isSkipped (token : List Char) : Bool :=
  match token with
  | [c] => Text.isAsciiBlank c
  | _ => false

/-- Skips a comment of a verbose pattern, up to the end of the line. -/
def lineComment : Nat → Cursor → Reading Cursor
  | 0, c => .ok c
  | n + 1, c => do
    if c.atEnd then return c
    else
      let after ← c.advance
      if c.sees '\n' then return after else lineComment n after

/-- Reads an escape whose token has been taken. -/
def escaped (r : Reader) (letter : Char) (c : Cursor) : Reading Reader := do
  let flags := r.level.flags
  let (found, c) ← escape r.groups flags letter c
  return match found with
    | .char code => r.push c (.leaf (.char flags.casing false code))
    | .category member => r.push c (.leaf (.set .exact false [member]))
    | .anchor anchor => r.push c (.anchor anchor) .anchor
    | .group group width => r.push c (.backref flags.casing group width)

/-- Reads a character that has a meaning of its own or stands for itself. -/
def character (r : Reader) (char : Char) (c : Cursor) : Reading Reader := do
  let flags := r.level.flags
  let self := r.push c (.leaf (.char flags.casing false char.toNat))
  match char with
  | '[' => r.set c
  | '?' => r.repeatLast c.place 0 (some 1) c
  | '*' => r.repeatLast c.place 0 none c
  | '+' => r.repeatLast c.place 1 none c
  | '\x7b' =>
    match ← braces? c with
    | none => return self
    | some (least, most, after) => r.repeatLast c.place least most after
  | '.' => return r.push c (.leaf (.any flags.dotAll))
  | '(' => r.openGroup c
  | '^' => return r.push c (.anchor (if flags.multiline then .lineStart else .textStart)) .anchor
  | '$' => return r.push c (.anchor (if flags.multiline then .lineEnd else .lastLineEnd)) .anchor
  | _ => return self

/-- Reads one token and what belongs to it. The token is neither a bar nor a closing
parenthesis. -/
def token (r : Reader) : Reading Reader := do
  let this := r.cursor.next
  let c ← r.cursor.advance
  if r.level.verbose && isSkipped this then return { r with cursor := c }
  else if r.level.verbose && this == ['#'] then
    return { r with cursor := ← lineComment (c.left + 1) c }
  else
    match this with
    | ['\\', letter] => r.escaped letter c
    | char :: _ => r.character char c
    | [] => return r

/-- Ends the branch in progress at a bar. -/
def bar (r : Reader) : Reading Reader := do
  match r.frames with
  | ⟨_, .conditional _, _⟩ :: _ =>
    if r.level.branches.isEmpty then
      return { r with cursor := ← r.cursor.advance, level := r.level.nextBranch }
    else r.cursor.fail .tooManyBranches 0
  | _ => return { r with cursor := ← r.cursor.advance, level := r.level.nextBranch }

/-- Reads to the end of the pattern, or to a closing parenthesis that closes nothing; `n` bounds
the number of rounds. -/
def rounds : Nat → Reader → Reading Reader
  | 0, r => .ok r
  | n + 1, r => do
    if r.cursor.atEnd then
      match r.frames with
      | [] => return r
      | frame :: _ => Cursor.failAt frame.start .unterminatedGroup
    else if r.cursor.sees ')' then
      match r.frames with
      | [] => return r
      | frame :: frames => rounds n (← r.close frame frames)
    else if r.cursor.sees '|' then rounds n (← r.bar)
    else rounds n (← r.token)

end Reader

/-! ## The whole pattern -/

/-- What only the whole tree shows: repetitions where none are supported, and look-behinds of more
than one width or too great a one. The first fault from the left is reported. -/
def Node.complaint? (template : Bool) : Node → Option Complaint
  | .empty | .leaf _ | .anchor _ | .backref .. => none
  | .seq a b | .alt a b | .conditional _ a b => (a.complaint? template).or (b.complaint? template)
  | .capture _ a | .atomic a | .ahead _ a => a.complaint? template
  | .repeated appetite _ _ a =>
    if template then some (.unsupportedTemplate appetite.operator) else a.complaint? template
  | .behind _ _ a =>
    if Reader.countLimit < a.width.1 then some .distantLookbehind
    else if a.width.1 ≠ a.width.2 then some .variableLookbehind
    else a.complaint? template

/-- A pattern ready for use: its tree, the flags in force, the number of groups and the groups that
have a name. -/
structure Tree where
  root : Node
  flags : Flags
  groups : Nat
  names : List (String × Nat)
  deriving Repr, Inhabited

namespace Tree

/-- The first condition on a group that does not exist. -/
def missingGroup? (groups : Groups) : Option Fault :=
  (groups.conditions.find? fun (group, _) => groups.count ≤ group).map fun (group, place) =>
    .malformed (.invalidReference group) (some place)

/-- Reads a pattern with flags set beside it. -/
def read (flags : Flags) (pattern : List Char) : Reading Tree := do
  let cursor ← Cursor.start 0 pattern
  let r ← Reader.rounds (pattern.length + 1)
    ⟨cursor, flags, .none, .empty flags flags.verbose, []⟩
  if r.flags.ascii && r.flags.unicode then throw .incompatibleClasses
  if !r.cursor.atEnd then r.cursor.fail .unbalanced 0
  else
    match missingGroup? r.groups with
    | some fault => throw fault
    | none =>
      let root := r.level.node
      match root.complaint? r.flags.template with
      | some complaint => throw (.malformed complaint none)
      | none => return ⟨root, r.flags, r.groups.count - 1, r.groups.names⟩

end Tree

end RecordRules.Pattern
