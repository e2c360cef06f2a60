import RecordRules.Display.Screen
import RecordRules.Text.Case

/-!
# Displays without styles

A mark is a bracketed text that starts with a small letter or one of the characters `#`, `/` and `@`, and
holds no opening bracket; behind a backslash a bracket starts no mark. A slash closes what a mark of the
same name opened, or what was opened last. `Screen.ofMarks` refuses a text that closes what is not open,
and `Shown.plain` writes what is shown as plain lines: marks are dropped, and a table is written as its
title, its headers and its rows, with bars between the cells.
-/

namespace RecordRules

/-! ## Marks -/

namespace Markup

/-- A piece of a text with marks: characters to be shown, or the inside of a mark with the place of its
bracket. -/
inductive Piece
  | shown (s : List Char)
  | mark (place : Nat) (tag : List Char)
  deriving DecidableEq, Repr

/-- Where the reader of marks stands: outside of marks, where a backslash may take the next bracket away,
right behind a bracket, or inside of a mark, whose characters are kept in reverse. -/
inductive Place
  | outside (escaped : Bool)
  | opened
  | inside (tag : List Char)

/-- The first character of a mark. -/
def startsMark (c : Char) : Bool := c.isLower || c == '#' || c == '/' || c == '@'

/-- The pieces of a text of which `n` characters have been read. A mark that does not end is shown. -/
def pieces : Place → (n : Nat) → List Char → List Piece
  | .outside _, _, [] => []
  | .opened, _, [] => [.shown ['[']]
  | .inside tag, _, [] => [.shown ('[' :: tag.reverse)]
  | .outside escaped, n, c :: rest =>
    if c = '[' ∧ escaped = false then pieces .opened (n + 1) rest
    else .shown [c] :: pieces (.outside (c == '\\' && !escaped)) (n + 1) rest
  | .opened, n, c :: rest =>
    if startsMark c then pieces (.inside [c]) (n + 1) rest
    else if c = '[' then .shown ['['] :: pieces .opened (n + 1) rest
    else .shown ['[', c] :: pieces (.outside (c == '\\')) (n + 1) rest
  | .inside tag, n, c :: rest =>
    if c = ']' then
      .mark (n - tag.length - 1) tag.reverse :: pieces (.outside false) (n + 1) rest
    else if c = '[' then .shown ('[' :: tag.reverse) :: pieces .opened (n + 1) rest
    else pieces (.inside (c :: tag)) (n + 1) rest

/-- The pieces of a text. -/
def read (s : List Char) : List Piece := pieces (.outside false) 0 s

/-- The name in the inside of a mark: what stands before an equals sign. -/
def nameOf (tag : List Char) : List Char :=
  Text.lowercase (Text.trim (tag.takeWhile (· ≠ '=')))

/-- The complaint about the first mark that closes what is not open, given the names that are open, the
last one first. -/
def complaintAbout? (opened : List (List Char)) : List Piece → Option String
  | [] => none
  | .shown _ :: rest => complaintAbout? opened rest
  | .mark place tag :: rest =>
    match tag with
    | '/' :: inner =>
      let name := nameOf inner
      if name = [] ∧ opened = [] then
        some s!"closing tag '[/]' at position {place} has nothing to close"
      else if name = [] then complaintAbout? opened.tail rest
      else if name ∈ opened then complaintAbout? (opened.erase name) rest
      else some (s!"closing tag '[{String.ofList tag}]' at position {place} " ++
        "doesn't match any open tag")
    | _ => complaintAbout? (nameOf tag :: opened) rest

/-- A text without its marks. -/
def withoutMarks (s : List Char) : List Char :=
  (read s).flatMap fun | .shown s => s | .mark .. => []

end Markup

/-- The screen that refuses texts with marks that close what is not open. It compares names as they are
written, so two names of one style are two to it, and reads no arguments of actions. -/
def Screen.ofMarks : Screen := ⟨fun s => Markup.complaintAbout? [] (Markup.read s.toList)⟩

/-! ## Plain lines -/

/-- The text of a cell. -/
def Cell.plain : Cell → String
  | markup text => .ofList (Markup.withoutMarks text.toList)
  | styled text _ => text

/-- The lines of what is shown. -/
def Shown.plain : Shown → List String
  | blank => [""]
  | line text => [.ofList (Markup.withoutMarks text.toList)]
  | table t =>
    [t.title, " | ".intercalate (t.columns.map (·.header))] ++
      t.rows.map fun cells => " | ".intercalate (cells.map Cell.plain)

end RecordRules
