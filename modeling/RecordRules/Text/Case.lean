import RecordRules.Text.CaseTable

/-!
# Lower case and title case

`lowercase` and `titlecase` map whole texts. They differ from a character by character map in three
places: a capital sigma at the end of a word becomes the final sigma, the capital I with dot becomes
two characters, and a title-case form may be longer than its character. `lowerCode` and
`sameLetter` compare single code points for patterns that ignore case.
-/

namespace RecordRules.Text

/-- The image of a code point under a list of runs, if some run maps it. -/
def CaseRun.find? : List CaseRun → Nat → Option Nat
  | [], _ => none
  | run :: rest, c =>
    if c < run.first then none
    else if c ≤ run.last && (c - run.first) % run.step == 0 then
      some (run.target + (c - run.first))
    else CaseRun.find? rest c

/-- The lower-case form of a code point, one code point long. -/
def lowerCode (c : Nat) : Nat := (CaseRun.find? lowerRuns c).getD c

/-- The code points whose lower-case form is `c`. -/
def lowerSources (c : Nat) : List Nat :=
  let mapped := lowerRuns.filterMap fun run =>
    if run.target ≤ c && (c - run.target) % run.step == 0 &&
        run.first + (c - run.target) ≤ run.last then
      some (run.first + (c - run.target))
    else none
  if lowerCode c = c then c :: mapped else mapped

/-- The other lower-case letters with the same upper-case form. -/
def siblings (c : Nat) : List Nat := (lowerSiblings.lookup c).getD []

/-- Two code points are the same letter when their lower-case forms agree or are siblings. -/
def sameLetter (c d : Nat) : Bool :=
  lowerCode c == lowerCode d || (siblings (lowerCode c)).contains (lowerCode d)

/-- The lower-case form of an ASCII capital; other code points are left alone. -/
def lowerAscii (c : Nat) : Nat := if 0x41 ≤ c && c ≤ 0x5a then c + 32 else c

/-- True of letters that have a case. -/
def isCased (c : Char) : Bool := casedRanges.has c.toNat

/-- True of characters that do not end the word around a sigma. -/
def isCaseIgnorable (c : Char) : Bool := caseIgnorables.has c.toNat

/-- A capital sigma ends its word when, ignorable characters aside, a cased letter comes before it
and none comes after it. `before` is the text before it, nearest character first. -/
def endsWord (before after : List Char) : Bool :=
  (before.dropWhile isCaseIgnorable).head?.any isCased &&
    !(after.dropWhile isCaseIgnorable).head?.any isCased

/-- The lower-case form of a character between the text before it, nearest first, and the text
after it. -/
def lowerChar (before : List Char) (c : Char) (after : List Char) : List Char :=
  if c == 'Σ' then [if endsWord before after then 'ς' else 'σ']
  else if c == 'İ' then ['i', '\u0307']
  else [Char.ofNat (lowerCode c.toNat)]

/-- The title-case form of a character. -/
def titleChar (c : Char) : List Char :=
  match titleExpansions.lookup c.toNat with
  | some cs => cs.map Char.ofNat
  | none => [Char.ofNat ((CaseRun.find? titleRuns c.toNat).getD c.toNat)]

/-- Lower case of the rest of a text, given what came before it, nearest first. -/
def lowercaseFrom (before : List Char) : List Char → List Char
  | [] => []
  | c :: rest => lowerChar before c rest ++ lowercaseFrom (c :: before) rest

/-- Lower case of a whole text. -/
def lowercase (s : List Char) : List Char := lowercaseFrom [] s

/-- Title case of the rest of a text: a letter is lowered when the character before it is cased. -/
def titlecaseFrom (before : List Char) : List Char → List Char
  | [] => []
  | c :: rest =>
    (if before.head?.any isCased then lowerChar before c rest else titleChar c) ++
      titlecaseFrom (c :: before) rest

/-- Title case of a whole text: each word starts with a capital and goes on in lower case. -/
def titlecase (s : List Char) : List Char := titlecaseFrom [] s

/-- Lower case of a string. -/
def lowered (s : String) : String := .ofList (lowercase s.toList)

end RecordRules.Text
