import RecordRules.Text.Quoted

/-!
# Writing JSON

A JSON document is a tree whose numbers are texts already. `Tree.pretty` writes it with one member a
line, two spaces deeper inside each container, and an empty container as a pair of brackets. Quotes,
backslashes and control characters are escaped, and every other character stands for itself.
-/

namespace RecordRules.Json

/-- A JSON document. A number or one of the words is kept as it is written. -/
inductive Tree
  | word (written : String)
  | text (s : String)
  | array (items : List Tree)
  | object (members : List (String × Tree))
  deriving Inhabited

namespace Tree

/-- The form of a character inside a string. -/
def escapeChar (c : Char) : List Char :=
  match c with
  | '"' => ['\\', '"']
  | '\\' => ['\\', '\\']
  | '\n' => ['\\', 'n']
  | '\r' => ['\\', 'r']
  | '\t' => ['\\', 't']
  | c =>
    if c.toNat = 8 then ['\\', 'b']
    else if c.toNat = 12 then ['\\', 'f']
    else if c.toNat < 32 then '\\' :: 'u' :: Text.hexDigits 4 c.toNat
    else [c]

/-- A string between quotes. -/
def stringText (s : String) : String :=
  .ofList ('"' :: s.toList.flatMap escapeChar ++ ['"'])

/-- The line break before a member at a depth. -/
def lineBreak (depth : Nat) : String := .ofList ('\n' :: List.replicate (2 * depth) ' ')

/-- Members between brackets at a depth. -/
def enclosed (opening closing : String) (depth : Nat) : List String → String
  | [] => opening ++ closing
  | members =>
    opening ++ lineBreak (depth + 1) ++ ("," ++ lineBreak (depth + 1)).intercalate members ++
      lineBreak depth ++ closing

mutual

/-- The text of a document at a depth. -/
def prettyAt (depth : Nat) : Tree → String
  | word written => written
  | text s => stringText s
  | array items => enclosed "[" "]" depth (prettyItems (depth + 1) items)
  | object members => enclosed "\x7b" "\x7d" depth (prettyMembers (depth + 1) members)

/-- The texts of items. -/
def prettyItems (depth : Nat) : List Tree → List String
  | [] => []
  | item :: rest => prettyAt depth item :: prettyItems depth rest

/-- The texts of members, names first. -/
def prettyMembers (depth : Nat) : List (String × Tree) → List String
  | [] => []
  | (name, item) :: rest =>
    (stringText name ++ ": " ++ prettyAt depth item) :: prettyMembers depth rest

end

/-- The text of a document. -/
def pretty (t : Tree) : String := t.prettyAt 0

/-- Null. -/
def null : Tree := word "null"

/-- A truth value. -/
def bool (b : Bool) : Tree := word (if b then "true" else "false")

/-- A number without sign. -/
def number (n : Nat) : Tree := word n.repr

/-- A text that may be missing. -/
def optionalText : Option String → Tree
  | some s => text s
  | none => null

end Tree

end RecordRules.Json
