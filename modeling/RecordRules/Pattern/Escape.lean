import RecordRules.Pattern.Cursor
import RecordRules.Pattern.Flags
import RecordRules.Pattern.Node
import RecordRules.Text.CharacterName

/-!
# Escapes in patterns

What a backslash and the characters after it stand for: `classEscape` inside a character set,
`escape` elsewhere, where the digits may also refer to a group.
-/

namespace RecordRules.Pattern

/-- The groups seen so far: the width of each once it is closed, the names, the number of groups
there were when the outermost look-behind began, and the places of conditions on a group by its
number. Group 0, the whole pattern, is never closed. -/
structure Groups where
  widths : List (Option (Nat × Nat))
  names : List (String × Nat)
  lookbehind : Option Nat
  conditions : List (Nat × Nat)
  deriving Inhabited

namespace Groups

/-- Before any group is read. -/
def none : Groups := ⟨[.none], [], .none, []⟩

/-- The number of groups, the whole pattern included. -/
def count (g : Groups) : Nat := g.widths.length

/-- The width of a closed group. -/
def closedWidth? (g : Groups) (group : Nat) : Option (Nat × Nat) := (g.widths[group]?).join

/-- A group that is referred to inside a look-behind must be closed and lie before it. -/
def checkLookbehind (g : Groups) (group : Nat) (c : Cursor) : Reading PUnit :=
  match g.lookbehind with
  | .none => .ok ⟨⟩
  | some bound =>
    if (g.closedWidth? group).isNone then c.fail .openGroup 0
    else if bound ≤ group then c.fail .lookbehindGroup 0
    else .ok ⟨⟩

end Groups

/-- The casing that flags ask for. -/
def Flags.casing (f : Flags) : Casing :=
  if f.ignoreCase then (if f.ascii then .ascii else .unicode) else .exact

/-- What an escape stands for. -/
inductive Escaped
  | char (code : Nat)
  | category (member : Member)
  | anchor (a : Anchor)
  | group (index : Nat) (width : Nat × Nat)

/-- The control characters that have a letter of their own. -/
def controlEscape? : Char → Option Nat
  | 'a' => some 7
  | 'b' => some 8
  | 'f' => some 12
  | 'n' => some 10
  | 'r' => some 13
  | 't' => some 9
  | 'v' => some 11
  | '\\' => some 0x5c
  | _ => none

/-- The categories that have a letter of their own; a capital letter means the complement. -/
def categoryEscape? (asciiOnly : Bool) : Char → Option Member
  | 'd' => some (.category .digit false asciiOnly)
  | 'D' => some (.category .digit true asciiOnly)
  | 's' => some (.category .space false asciiOnly)
  | 'S' => some (.category .space true asciiOnly)
  | 'w' => some (.category .word false asciiOnly)
  | 'W' => some (.category .word true asciiOnly)
  | _ => none

/-- The anchors that have a letter of their own. -/
def anchorEscape? (asciiOnly : Bool) : Char → Option Anchor
  | 'A' => some .textStart
  | 'b' => some (.boundary false asciiOnly)
  | 'B' => some (.boundary true asciiOnly)
  | 'Z' => some .textEnd
  | _ => none

/-- The value of a hexadecimal digit. -/
def hexValue? (c : Char) : Option Nat := Text.upperHexValue? c.toUpper

/-- True of the digits 0 to 7. -/
def isOctal (c : Char) : Bool := '0' ≤ c && c ≤ '7'

/-- The number that digits stand for in a base. -/
def valueIn (base : Nat) (ds : List Char) : Nat :=
  ds.foldl (fun n d => base * n + (hexValue? d).getD 0) 0

/-- Reads the hexadecimal digits of an escape, of which there must be `width`. -/
def hexEscape (letter : Char) (width : Nat) (c : Cursor) : Reading (Nat × Cursor) := do
  let (digits, after) ← c.takeWhile (fun d => (hexValue? d).isSome) width
  let text := '\\' :: letter :: digits
  if digits.length ≠ width then after.fail (.incompleteEscape (.ofList text)) text.length
  else
    let code := valueIn 16 digits
    if code < 0x110000 then return (code, after)
    else after.fail (.badEscape (.ofList text)) text.length

/-- Reads the name of a character, between braces. -/
def namedEscape (c : Cursor) : Reading (Nat × Cursor) := do
  let (opened, afterBrace) ← c.skip? '\x7b'
  if !opened then c.fail .missingBrace 0
  else
    let (name, after) ← afterBrace.takeName '\x7d' "character name"
    match Text.named? name with
    | some code => return (code, after)
    | none => after.fail (.undefinedCharacter (.ofList name)) (name.length + 4)

/-- The escapes that name a code point and read on after their letter. -/
def codeEscape? (letter : Char) (c : Cursor) : Option (Reading (Nat × Cursor)) :=
  match letter with
  | 'x' => some (hexEscape letter 2 c)
  | 'u' => some (hexEscape letter 4 c)
  | 'U' => some (hexEscape letter 8 c)
  | 'N' => some (namedEscape c)
  | _ => none

/-- An escaped character that has no meaning of its own stands for itself, unless it is an ASCII
letter or digit. -/
def plainEscape (letter : Char) (c : Cursor) : Reading (Nat × Cursor) :=
  if letter.isAlphanum then c.fail (.badEscape (.ofList ['\\', letter])) 2
  else .ok (letter.toNat, c)

/-- An octal escape that went on too long. -/
def octalCode (digits : List Char) (c : Cursor) : Reading (Nat × Cursor) :=
  let code := valueIn 8 digits
  if code ≤ 0xff then .ok (code, c)
  else
    let text := '\\' :: digits
    c.fail (.octalTooLarge (.ofList text)) text.length

/-- Reads an escape inside a character set; the cursor stands after its letter. -/
def classEscape (flags : Flags) (letter : Char) (c : Cursor) : Reading (Member × Cursor) := do
  match controlEscape? letter, categoryEscape? flags.ascii letter with
  | some code, _ => return (.single code, c)
  | none, some member => return (member, c)
  | none, none =>
    let (code, after) ← match codeEscape? letter c with
      | some reading => reading
      | none =>
        if isOctal letter then do
          let (more, after) ← c.takeWhile isOctal 2
          octalCode (letter :: more) after
        else plainEscape letter c
    return (.single code, after)

/-- A reference to a group by its number. -/
def groupReference (groups : Groups) (digits : List Char) (c : Cursor) :
    Reading (Escaped × Cursor) := do
  let group := valueIn 10 digits
  if group < groups.count then
    match groups.closedWidth? group with
    | none => c.fail .openGroup (digits.length + 1)
    | some width =>
      groups.checkLookbehind group c
      return (.group group width, c)
  else c.fail (.invalidReference group) digits.length

/-- Reads digits that start with 1 to 9: three octal digits are a code point, anything else refers
to a group. -/
def digitEscape (groups : Groups) (first : Char) (c : Cursor) : Reading (Escaped × Cursor) := do
  let (more, afterTwo) ← c.takeWhile Char.isDigit 1
  match more with
  | second :: _ =>
    if isOctal first && isOctal second && afterTwo.seesAny isOctal then
      let (third, after) ← afterTwo.takeWhile isOctal 1
      let (code, after) ← octalCode (first :: second :: third) after
      return (.char code, after)
    else groupReference groups [first, second] afterTwo
  | [] => groupReference groups [first] c

/-- Reads an escape outside of character sets; the cursor stands after its letter. -/
def escape (groups : Groups) (flags : Flags) (letter : Char) (c : Cursor) :
    Reading (Escaped × Cursor) := do
  match categoryEscape? flags.ascii letter, anchorEscape? flags.ascii letter,
      controlEscape? letter with
  | some member, _, _ => return (.category member, c)
  | none, some anchor, _ => return (.anchor anchor, c)
  | none, none, some code => return (.char code, c)
  | none, none, none =>
    match codeEscape? letter c with
    | some reading =>
      let (code, after) ← reading
      return (.char code, after)
    | none =>
      if letter = '0' then
        let (digits, after) ← c.takeWhile isOctal 2
        return (.char (valueIn 8 digits), after)
      else if letter.isDigit then digitEscape groups letter c
      else
        let (code, after) ← plainEscape letter c
        return (.char code, after)

end RecordRules.Pattern
