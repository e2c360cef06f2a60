import RecordRules.Text.Quoted

/-!
# Faults of patterns

What can be wrong with a pattern, and how it is worded. A complaint usually has a place in the
pattern, which the wording names by its number of characters from the start and, when the pattern
has several lines, by line and column as well.
-/

namespace RecordRules.Pattern

/-- What is wrong with a pattern. -/
inductive Complaint
  | trailingBackslash
  | badEscape (escape : String)
  | incompleteEscape (escape : String)
  | octalTooLarge (escape : String)
  | missingBrace
  | undefinedCharacter (name : String)
  | missingName (what : String)
  | unterminatedName (terminator : Char)
  | badGroupName (name : String)
  | unknownGroupName (name : String)
  | redefinedGroup (name : String) (group earlier : Nat)
  | badGroupNumber
  | invalidReference (group : Nat)
  | openGroup
  | lookbehindGroup
  | unterminatedSet
  | badRange (first last : String)
  | minAboveMax
  | nothingToRepeat
  | multipleRepeat
  | unexpectedEnd
  | unknownExtension (text : String)
  | unterminatedComment
  | unterminatedGroup
  | tooManyBranches
  | unbalanced
  | misplacedFlags
  | localeFlag
  | conflictingFlags
  | unfinishedFlags
  | unknownFlag
  | missingFlag
  | missingColon
  | globalFlagOn
  | globalFlagOff
  | typeFlagOff
  | flagOnAndOff
  | variableLookbehind
  | distantLookbehind
  | unsupportedTemplate (operator : String)
  deriving DecidableEq, Repr

/-- The wording of a complaint, without its place. -/
def Complaint.text : Complaint → String
  | trailingBackslash => "bad escape (end of pattern)"
  | badEscape escape => "bad escape " ++ escape
  | incompleteEscape escape => "incomplete escape " ++ escape
  | octalTooLarge escape => s!"octal escape value {escape} outside of range 0-0o377"
  | missingBrace => "missing \x7b"
  | undefinedCharacter name => "undefined character name " ++ Text.quoted name
  | missingName what => "missing " ++ what
  | unterminatedName terminator => s!"missing {terminator}, unterminated name"
  | badGroupName name => "bad character in group name " ++ Text.quoted name
  | unknownGroupName name => "unknown group name " ++ Text.quoted name
  | redefinedGroup name group earlier =>
    "redefinition of group name " ++ Text.quoted name ++
      s!" as group {group}; was group {earlier}"
  | badGroupNumber => "bad group number"
  | invalidReference group => s!"invalid group reference {group}"
  | openGroup => "cannot refer to an open group"
  | lookbehindGroup => "cannot refer to group defined in the same lookbehind subpattern"
  | unterminatedSet => "unterminated character set"
  | badRange first last => s!"bad character range {first}-{last}"
  | minAboveMax => "min repeat greater than max repeat"
  | nothingToRepeat => "nothing to repeat"
  | multipleRepeat => "multiple repeat"
  | unexpectedEnd => "unexpected end of pattern"
  | unknownExtension text => "unknown extension ?" ++ text
  | unterminatedComment => "missing ), unterminated comment"
  | unterminatedGroup => "missing ), unterminated subpattern"
  | tooManyBranches => "conditional backref with more than two branches"
  | unbalanced => "unbalanced parenthesis"
  | misplacedFlags => "global flags not at the start of the expression"
  | localeFlag => "bad inline flags: cannot use 'L' flag with a str pattern"
  | conflictingFlags => "bad inline flags: flags 'a', 'u' and 'L' are incompatible"
  | unfinishedFlags => "missing -, : or )"
  | unknownFlag => "unknown flag"
  | missingFlag => "missing flag"
  | missingColon => "missing :"
  | globalFlagOn => "bad inline flags: cannot turn on global flag"
  | globalFlagOff => "bad inline flags: cannot turn off global flag"
  | typeFlagOff => "bad inline flags: cannot turn off flags 'a', 'u' and 'L'"
  | flagOnAndOff => "bad inline flags: flag turned on and off"
  | variableLookbehind => "look-behind requires fixed-width pattern"
  | distantLookbehind => "looks too much behind"
  | unsupportedTemplate operator => "internal: unsupported template operator " ++ operator

/-- Why a pattern cannot be used. -/
inductive Fault
  /-- The pattern is malformed, as a rule at a known place. -/
  | malformed (complaint : Complaint) (place : Option Nat)
  /-- A repetition count is beyond the limit. -/
  | repetitionTooLarge
  /-- Both the ASCII and the Unicode classes are asked for. -/
  | incompatibleClasses
  /-- Groups are nested too deeply. -/
  | nestedTooDeeply
  deriving DecidableEq, Repr

/-- The line and column of a place, both counted from 1. -/
def lineAndColumn (pattern : List Char) (place : Nat) : Nat × Nat :=
  let before := pattern.take place
  (before.count '\n' + 1, (before.reverse.takeWhile (· ≠ '\n')).length + 1)

/-- The wording of a fault of a pattern. -/
def Fault.message (pattern : List Char) : Fault → String
  | malformed complaint none => complaint.text
  | malformed complaint (some place) =>
    let text := s!"{complaint.text} at position {place}"
    if pattern.contains '\n' then
      let (line, column) := lineAndColumn pattern place
      s!"{text} (line {line}, column {column})"
    else text
  | repetitionTooLarge => "the repetition number is too large"
  | incompatibleClasses => "ASCII and UNICODE flags are incompatible"
  | nestedTooDeeply => "maximum recursion depth exceeded"

end RecordRules.Pattern
