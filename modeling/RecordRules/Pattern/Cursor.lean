import RecordRules.Pattern.Fault

/-!
# Reading the text of a pattern

A pattern is read token by token: a token is one character, or a backslash with the character after
it. A `Cursor` stands before a token. A backslash at the very end of a pattern is found out as soon
as it becomes the next token.
-/

namespace RecordRules.Pattern

/-- A place in a pattern: the next token, the text after it and the place where that text
starts. -/
structure Cursor where
  next : List Char
  rest : List Char
  index : Nat
  deriving Inhabited

/-- What a step of reading yields. -/
abbrev Reading := Except Fault

namespace Cursor

/-- The cursor before the token at the start of a text. -/
def start (index : Nat) : List Char → Reading Cursor
  | [] => .ok ⟨[], [], index⟩
  | ['\\'] => .error (.malformed .trailingBackslash (some index))
  | '\\' :: c :: rest => .ok ⟨['\\', c], rest, index + 2⟩
  | c :: rest => .ok ⟨[c], rest, index + 1⟩

/-- The place of the next token. -/
def place (c : Cursor) : Nat := c.index - c.next.length

/-- The number of characters that are left. -/
def left (c : Cursor) : Nat := c.next.length + c.rest.length

/-- True when no token is left. -/
def atEnd (c : Cursor) : Bool := c.next.isEmpty

/-- Moves past the next token. -/
def advance (c : Cursor) : Reading Cursor := start c.index c.rest

/-- The next token is the given character. -/
def sees (c : Cursor) (char : Char) : Bool := c.next == [char]

/-- The next token is a single character with a property. -/
def seesAny (c : Cursor) (p : Char → Bool) : Bool :=
  match c.next with
  | [char] => p char
  | _ => false

/-- Moves past the next token if it is the given character. -/
def skip? (c : Cursor) (char : Char) : Reading (Bool × Cursor) :=
  if c.sees char then do return (true, ← c.advance) else return (false, c)

/-- A complaint about the place a number of characters before the cursor. -/
def fail {α : Type} (c : Cursor) (complaint : Complaint) (back : Nat) : Reading α :=
  .error (.malformed complaint (some (c.place - back)))

/-- A complaint about a known place. -/
def failAt {α : Type} (place : Nat) (complaint : Complaint) : Reading α :=
  .error (.malformed complaint (some place))

/-- Takes up to `n` characters with a property. -/
def takeWhile (p : Char → Bool) : Nat → Cursor → Reading (List Char × Cursor)
  | 0, c => .ok ([], c)
  | n + 1, c =>
    if c.seesAny p then do
      let (taken, after) ← takeWhile p n (← c.advance)
      return (c.next ++ taken, after)
    else .ok ([], c)

/-- Takes the text up to a terminator and moves past it. `what` is being named by the text; `n`
bounds the number of tokens. -/
def takeUntil (terminator : Char) (what : String) :
    Nat → List Char → Cursor → Reading (List Char × Cursor)
  | 0, taken, c => .ok (taken, c)
  | n + 1, taken, c => do
    let after ← c.advance
    if c.atEnd then
      if taken.isEmpty then after.fail (.missingName what) 0
      else after.fail (.unterminatedName terminator) taken.length
    else if c.sees terminator then
      if taken.isEmpty then after.fail (.missingName what) 1 else return (taken, after)
    else takeUntil terminator what n (taken ++ c.next) after

/-- Takes a name up to its terminator. -/
def takeName (c : Cursor) (terminator : Char) (what : String) : Reading (List Char × Cursor) :=
  takeUntil terminator what (c.left + 1) [] c

end Cursor

end RecordRules.Pattern
