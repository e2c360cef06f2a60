import RecordRules.Pattern.Matcher

/-!
# Patterns as parameters

A pattern is given bare, or between two equal delimiters with flags after the second, as in
`/^[a-z]+$/i`. The text between the first delimiter and its last occurrence is the pattern, provided
that only flag letters follow; any other text is a bare pattern as a whole.
-/

namespace RecordRules.Pattern

/-- True of the characters that delimit patterns. -/
def isDelimiter (c : Char) : Bool := "/#~%@!;\x60".toList.contains c

/-- The flags that may follow a delimited pattern. -/
def suffixFlag? : Char → Option Flags
  | 'i' => some { ignoreCase := true }
  | 'm' => some { multiline := true }
  | 's' => some { dotAll := true }
  | 'x' => some { verbose := true }
  | 'u' => some { unicode := true }
  | _ => none

/-- Splits a text at the last occurrence of a character. -/
def splitLast? (d : Char) (s : List Char) : Option (List Char × List Char) :=
  let tail := s.reverse.takeWhile (· ≠ d)
  match s.reverse.dropWhile (· ≠ d) with
  | [] => none
  | _ :: body => some (body.reverse, tail.reverse)

/-- The pattern and the flags of a delimited parameter. -/
def delimited? : List Char → Option (List Char × Flags)
  | [] => none
  | d :: rest =>
    if isDelimiter d then do
      let (body, tail) ← splitLast? d rest
      let flags ← tail.mapM suffixFlag?
      return (body, flags.foldl Flags.union {})
    else none

/-- The pattern and the flags that a parameter asks for. -/
def request (param : List Char) : List Char × Flags := (delimited? param).getD (param, {})

/-- Which patterns can be read, with flags. Nested groups take calls inside each other, to read them
and to make them ready, and it is for the caller to say for which patterns there is room. -/
abbrev Room := List Char → Flags → Bool

/-- How deep the groups of a pattern are nested, by the parentheses that are neither escaped nor in a
set. -/
def nesting (pattern : List Char) : Nat :=
  count 0 false pattern
where
  /-- The most groups that are open at once, after some that are. -/
  count (opened : Nat) (inSet : Bool) : List Char → Nat
    | [] => opened
    | '\\' :: _ :: rest => count opened inSet rest
    | '[' :: rest => count opened true rest
    | ']' :: rest => count opened false rest
    | '(' :: rest => if inSet then count opened true rest else count (opened + 1) false rest
    | ')' :: rest =>
      if inSet then count opened true rest else max opened (count (opened - 1) false rest)
    | _ :: rest => count opened inSet rest

/-- Reads the pattern of a parameter, if there is room for it. -/
def ofParam (param : List Char) (hasRoom : Room := fun _ _ => true) : Reading Tree :=
  let (pattern, flags) := request param
  if hasRoom pattern flags then Tree.read flags pattern else .error .nestedTooDeeply

end RecordRules.Pattern
