/-!
# Flags of patterns

Flags change how a pattern is read or matched. They are set for the whole pattern, at its start or
beside it, or for one group.
-/

namespace RecordRules.Pattern

/-- A set of flags. -/
structure Flags where
  ascii : Bool := false
  ignoreCase : Bool := false
  multiline : Bool := false
  dotAll : Bool := false
  unicode : Bool := false
  verbose : Bool := false
  template : Bool := false
  deriving DecidableEq, Repr, Inhabited

namespace Flags

/-- The flag of a letter; the letter `L` names a flag that texts cannot have. -/
def ofLetter? : Char → Option Flags
  | 'a' => some { ascii := true }
  | 'i' => some { ignoreCase := true }
  | 'm' => some { multiline := true }
  | 's' => some { dotAll := true }
  | 'u' => some { unicode := true }
  | 'x' => some { verbose := true }
  | 't' => some { template := true }
  | _ => none

/-- The flags of both sets. -/
def union (f g : Flags) : Flags where
  ascii := f.ascii || g.ascii
  ignoreCase := f.ignoreCase || g.ignoreCase
  multiline := f.multiline || g.multiline
  dotAll := f.dotAll || g.dotAll
  unicode := f.unicode || g.unicode
  verbose := f.verbose || g.verbose
  template := f.template || g.template

/-- The flags of the first set that are not in the second. -/
def without (f g : Flags) : Flags where
  ascii := f.ascii && !g.ascii
  ignoreCase := f.ignoreCase && !g.ignoreCase
  multiline := f.multiline && !g.multiline
  dotAll := f.dotAll && !g.dotAll
  unicode := f.unicode && !g.unicode
  verbose := f.verbose && !g.verbose
  template := f.template && !g.template

/-- True of a set with a flag that chooses the character classes. -/
def choosesClasses (f : Flags) : Bool := f.ascii || f.unicode

/-- The flags of a group: those around it, with some added and some removed. A choice of character
classes replaces the one around it. -/
def inGroup (outer add remove : Flags) : Flags :=
  let base :=
    if add.choosesClasses then { outer with ascii := false, unicode := false } else outer
  (base.union add).without remove

/-- The letters of the flags in force on a whole pattern; classes are Unicode unless they are
ASCII. -/
def letters (f : Flags) : String :=
  String.ofList <|
    (if f.ascii then ['a'] else []) ++ (if f.ignoreCase then ['i'] else []) ++
      (if f.multiline then ['m'] else []) ++ (if f.dotAll then ['s'] else []) ++
      (if f.ascii then [] else ['u']) ++ (if f.verbose then ['x'] else [])

end Flags

end RecordRules.Pattern
