import RecordRules.Value
import RecordRules.Text.Quoted

/-!
# Rule declarations

The rules of one field are declared in one text: rules are separated by pipes, and within a rule
the first comma ends the name and starts the parameter, which runs to the end of the rule. A pipe
right after a backslash separates nothing; the pair stands for a pipe. `parseRules` reads a
declaration, `Invocation.declaration` writes one rule.
-/

namespace RecordRules

/-- What is wrong with a declaration. -/
inductive Flaw
  | emptyRule
  | emptyName
  | unsupportedEntry (field : String)
  | unsupportedDeclaration (field : String)
  | unusableName
  deriving DecidableEq, Repr

/-- The wording of a flaw. -/
def Flaw.reason : Flaw → String
  | emptyRule => "empty rule between '|' separators"
  | emptyName => "empty rule name"
  | unsupportedEntry field => s!"unsupported rule entry type for field '{field}'"
  | unsupportedDeclaration field => s!"declaration for field '{field}' must be a string or a list"
  | unusableName => "rule names must be non-empty without '|' or ','"

/-- A declaration, or a name for a rule, that cannot be used. -/
structure Malformed where
  declaration : String
  flaw : Flaw
  deriving DecidableEq, Repr

/-- The wording of the complaint about a declaration. -/
def Malformed.message (e : Malformed) : String :=
  "Malformed rule declaration " ++ Text.quoted e.declaration ++ ": " ++ e.flaw.reason

/-- The rule in declaration form: the name, and after a comma the parameter if there is one. -/
def Invocation.declaration (i : Invocation) : String :=
  match i.param with
  | none => i.name
  | some param => i.name ++ "," ++ param

namespace Declaration

/-- The texts between separating pipes. `escaped` is true when the character before was a
backslash, so that a pipe here separates nothing. -/
def segments (escaped : Bool) : List Char → List (List Char)
  | [] => [[]]
  | c :: rest =>
    if c = '|' ∧ escaped = false then [] :: segments false rest
    else
      match segments (c == '\\') rest with
      | [] => [[c]]
      | s :: ss => (c :: s) :: ss

/-- Replaces each pipe that follows a backslash, together with the backslash, by a pipe. -/
def unescape : List Char → List Char
  | '\\' :: '|' :: rest => '|' :: unescape rest
  | c :: rest => c :: unescape rest
  | [] => []

/-- Puts a backslash before each pipe. -/
def escape (s : List Char) : List Char := s.flatMap fun c => if c = '|' then ['\\', '|'] else [c]

/-- Splits a text at its first comma: the name and, if there is a comma, the parameter. -/
def splitName (s : List Char) : List Char × Option (List Char) :=
  (s.takeWhile (· ≠ ','), (s.dropWhile (· ≠ ',')).tail?)

/-- The invocation written in a text, unless its name is empty. -/
def invocation? (s : List Char) : Option Invocation :=
  match splitName s with
  | ([], _) => none
  | (name, param) => some ⟨.ofList name, param.map .ofList⟩

/-- The invocation written between two separators. -/
def segmentInvocation (segment : List Char) : Except Flaw Invocation :=
  match segment with
  | [] => .error .emptyRule
  | _ =>
    match invocation? (unescape segment) with
    | none => .error .emptyName
    | some i => .ok i

end Declaration

/-- Reads a single rule; its parameter is taken as it stands. -/
def parseRule (s : String) : Except Malformed Invocation :=
  match Declaration.invocation? s.toList with
  | none => .error ⟨s, .emptyName⟩
  | some i => .ok i

/-- Reads the declaration of a field's rules; the empty text declares none. -/
def parseRules (s : String) : Except Malformed (List Invocation) :=
  if s = "" then .ok []
  else
    match (Declaration.segments false s.toList).mapM Declaration.segmentInvocation with
    | .error flaw => .error ⟨s, flaw⟩
    | .ok invocations => .ok invocations

end RecordRules
