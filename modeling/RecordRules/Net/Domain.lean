import RecordRules.Net.Punycode
import RecordRules.Text.Direction
import RecordRules.Text.Letter
import RecordRules.Text.Normal

/-!
# Domain names

Names of hosts in any script. A name is first brought to a common form: lower case, full-width and
other variants replaced, all full stops alike. Then each label between full stops must consist of
the letters, marks and digits that domain names may have. In ASCII a label in other characters is
written in Punycode after `xn--`.
-/

namespace RecordRules.Net

open RecordRules.Text (Ranges)

/-! ## The common form -/

/-- Characters that are dropped: fillers, selectors of variants and the like. -/
def ignoredCodes : Ranges := [
  (0xad, 0xad), (0x34f, 0x34f), (0x115f, 0x1160), (0x17b4, 0x17b5), (0x180b, 0x180f),
  (0x200b, 0x200b), (0x2060, 0x2064), (0x3164, 0x3164), (0xfe00, 0xfe0f), (0xfeff, 0xfeff),
  (0xffa0, 0xffa0), (0xe0100, 0xe01ef)]

/-- The full stops of other scripts. -/
def fullStops : List Nat := [0x3002, 0xff0e, 0xff61]

/-- Cyrillic letters in historic shapes, from the code point `0x1c80` on, as common letters. -/
def historicCyrillic : List Nat :=
  [0x432, 0x434, 0x43e, 0x441, 0x442, 0x442, 0x44a, 0x463, 0xa64b]

/-- A part of a decomposed character in lower case; the iota below a letter becomes a letter. -/
def foldPart (c : Nat) : Nat :=
  if c = 0x345 then 0x3b9 else if c = 0x3c2 then 0x3c3 else Text.lowerCode c

/-- The common form of a code point. A character that hides a full stop has none. -/
def foldCode? (c : Nat) : Option (List Nat) :=
  if fullStops.contains c then some [0x2e]
  else if ignoredCodes.has c then some []
  -- The sharp s and the final sigma are letters of their own, and Cherokee has capitals only.
  else if c = 0xdf ∨ c = 0x3c2 ∨ (0x13a0 ≤ c ∧ c ≤ 0x13f5) then some [c]
  else if 0x13f8 ≤ c ∧ c ≤ 0x13fd then some [c - 8]
  else if 0xab70 ≤ c ∧ c ≤ 0xabbf then some [c - 0xab70 + 0x13a0]
  else if 0x1c80 ≤ c ∧ c ≤ 0x1c88 then some [(historicCyrillic[c - 0x1c80]?).getD c]
  else
    let parts := Text.expand true 8 c
    if c ≠ 0x2e ∧ parts.contains 0x2e then none else some (parts.map foldPart)

/-- The common form of a name. -/
def foldName? (s : List Char) : Option (List Char) := do
  let codes ← s.mapM fun c => foldCode? c.toNat
  return Text.canonical (codes.flatten.map Char.ofNat)

/-! ## Characters of labels -/

/-- Letters and digits allowed besides, by way of exception. -/
def extraLabelCodes : List Nat := [0x2d, 0xdf, 0x3c2, 0x6fd, 0x6fe, 0xf0b, 0x3007]

/-- Letters not allowed: fillers of lines, repetition marks, tone marks, the parts of syllables,
enclosing marks, and the marks of symbols and of music. -/
def refusedLabelCodes : Ranges := [
  (0x488, 0x489), (0x640, 0x640), (0x7fa, 0x7fa), (0x1100, 0x11ff), (0x1abe, 0x1abe),
  (0x20d0, 0x20ff), (0x302e, 0x302f), (0x3031, 0x3035), (0x303b, 0x303b), (0xa670, 0xa672),
  (0xa960, 0xa97c), (0xd7b0, 0xd7fb), (0x1d100, 0x1d24f)]

/-- The digits of Arabic. -/
def arabicDigitCodes : Ranges := [(0x660, 0x669)]

/-- The digits of Persian. -/
def persianDigitCodes : Ranges := [(0x6f0, 0x6f9)]

/-- Letters, marks and digits that are their own common form. -/
def isLabelChar (c : Char) : Bool :=
  extraLabelCodes.contains c.toNat ||
    ((Text.isLetter c || Text.isMark c || Text.isDecimalDigit c) &&
      !refusedLabelCodes.has c.toNat && !arabicDigitCodes.has c.toNat &&
      !persianDigitCodes.has c.toNat && foldName? [c] == some [c])

/-- The Greek script. -/
def greekCodes : Ranges := [
  (0x370, 0x373), (0x375, 0x377), (0x37a, 0x37d), (0x37f, 0x37f), (0x384, 0x384), (0x386, 0x386),
  (0x388, 0x38a), (0x38c, 0x38c), (0x38e, 0x3a1), (0x3a3, 0x3e1), (0x3f0, 0x3ff),
  (0x1d26, 0x1d2a), (0x1d5d, 0x1d61), (0x1d66, 0x1d6a), (0x1dbf, 0x1dbf), (0x1f00, 0x1f15),
  (0x1f18, 0x1f1d), (0x1f20, 0x1f45), (0x1f48, 0x1f4d), (0x1f50, 0x1f57), (0x1f59, 0x1f59),
  (0x1f5b, 0x1f5b), (0x1f5d, 0x1f5d), (0x1f5f, 0x1f7d), (0x1f80, 0x1fb4), (0x1fb6, 0x1fc4),
  (0x1fc6, 0x1fd3), (0x1fd6, 0x1fdb), (0x1fdd, 0x1fef), (0x1ff2, 0x1ff4), (0x1ff6, 0x1ffe),
  (0x2126, 0x2126), (0xab65, 0xab65), (0x10140, 0x1018e), (0x101a0, 0x101a0),
  (0x1d200, 0x1d245)]

/-- The Hebrew script. -/
def hebrewCodes : Ranges := [
  (0x591, 0x5c7), (0x5d0, 0x5ea), (0x5ef, 0x5f4), (0xfb1d, 0xfb36), (0xfb38, 0xfb3c),
  (0xfb3e, 0xfb3e), (0xfb40, 0xfb41), (0xfb43, 0xfb44), (0xfb46, 0xfb4f)]

/-- The scripts of Japanese: Hiragana, Katakana and Han. -/
def japaneseCodes : Ranges := [
  (0x2e80, 0x2e99), (0x2e9b, 0x2ef3), (0x2f00, 0x2fd5), (0x3005, 0x3005), (0x3007, 0x3007),
  (0x3021, 0x3029), (0x3038, 0x303b), (0x3041, 0x3096), (0x309d, 0x309f), (0x30a1, 0x30fa),
  (0x30fd, 0x30ff), (0x31f0, 0x31ff), (0x32d0, 0x32fe), (0x3300, 0x3357), (0x3400, 0x4dbf),
  (0x4e00, 0x9fff), (0xf900, 0xfa6d), (0xfa70, 0xfad9), (0xff66, 0xff6f), (0xff71, 0xff9d),
  (0x16fe2, 0x16fe3), (0x16ff0, 0x16ff6), (0x1aff0, 0x1aff3), (0x1aff5, 0x1affb),
  (0x1affd, 0x1affe), (0x1b000, 0x1b11f), (0x1b120, 0x1b122), (0x1b132, 0x1b132),
  (0x1b150, 0x1b152), (0x1b155, 0x1b155), (0x1b164, 0x1b167), (0x1f200, 0x1f200),
  (0x20000, 0x2a6df), (0x2a700, 0x2b81d), (0x2b820, 0x2cead), (0x2ceb0, 0x2ebe0),
  (0x2ebf0, 0x2ee5d), (0x2f800, 0x2fa1d), (0x30000, 0x3134a), (0x31350, 0x33479)]

/-- Signs that are allowed in some places of a label: the middle dot between two letters `l`, the
Greek numeral sign before a Greek letter, Hebrew punctuation after a Hebrew one, the Katakana dot in
a Japanese label, and the digits of Arabic and Persian unless both occur. -/
def isPlacedWell (label : List Char) (before : Option Char) (c : Char) (after : Option Char) :
    Bool :=
  let code := c.toNat
  if code = 0xb7 then before == some 'l' && after == some 'l'
  else if code = 0x375 then after.any fun d => greekCodes.has d.toNat
  else if code = 0x5f3 || code = 0x5f4 then before.any fun d => hebrewCodes.has d.toNat
  else if code = 0x30fb then label.any fun d => japaneseCodes.has d.toNat
  else if arabicDigitCodes.has code then !label.any fun d => persianDigitCodes.has d.toNat
  else if persianDigitCodes.has code then !label.any fun d => arabicDigitCodes.has d.toNat
  else false

/-- Every character of the rest of a label is allowed where it stands. -/
def allPlaced (label : List Char) (before : Option Char) : List Char → Bool
  | [] => true
  | c :: rest =>
    (isLabelChar c || isPlacedWell label before c rest.head?) && allPlaced label (some c) rest

/-! ## Labels -/

/-- A text is a label of a name in its own script. -/
def isLabel (s : List Char) : Bool :=
  !s.isEmpty && Text.canonical s == s && (s.drop 2).take 2 != ['-', '-'] &&
    s.head? != some '-' && s.getLast? != some '-' && !s.head?.any Text.isMark &&
    allPlaced s none s && Text.directionsAgree s

/-- True of texts in ASCII. -/
def isAscii (s : List Char) : Bool := s.all (·.toNat < 0x80)

/-- The start of a label written in Punycode. -/
def punycodeStart : List Char := "xn--".toList

/-- The characters of code points, if all of them are characters. -/
def chars? (codes : List Nat) : Option (List Char) :=
  codes.mapM fun n => if (Char.ofNat n).toNat = n then some (Char.ofNat n) else none

/-- The most characters of a label in ASCII. -/
def labelLimit : Nat := 63

/-- The label in its own script that a label in ASCII stands for. -/
def unicodeLabel? (s : List Char) : Option (List Char) :=
  let s := s.map Char.toLower
  if punycodeStart.isPrefixOf s then do
    let body := s.drop 4
    if body.isEmpty || body.getLast? = some '-' then none
    else
      let label ← chars? (← Punycode.decode? body)
      if isLabel label then some label else none
  else if isLabel s then some s
  else none

/-- The form in ASCII of a label. -/
def asciiLabel? (s : List Char) : Option (List Char) :=
  let ascii :=
    if isAscii s then (unicodeLabel? s).map fun _ => s
    else if isLabel s then some (punycodeStart ++ Punycode.encode (s.map Char.toNat))
    else none
  ascii.filter (·.length ≤ labelLimit)

/-! ## Names -/

/-- Characters that may stand in a name before it is brought to its common form. -/
def isNameChar (c : Char) : Bool := c.isAlphanum || c == '-' || c == '.' || 0x80 ≤ c.toNat

/-- A label is no label of ASCII when it has two hyphens after two characters, unless these are
`xn`. -/
def hasReservedHyphens (label : List Char) : Bool :=
  (label.drop 2).take 2 == ['-', '-'] && (label.take 2).map Char.toLower != ['x', 'n']

/-- No label is empty, starts or ends with a hyphen, or has reserved hyphens. -/
def isWellFormed (labels : List (List Char)) : Bool :=
  labels.all fun label =>
    !label.isEmpty && label.head? != some '-' && label.getLast? != some '-' &&
      !hasReservedHyphens label

/-- The most characters of a name in ASCII. -/
def nameLimit : Nat := 253

/-- A name in ASCII and in its own script. -/
structure DomainName where
  ascii : List Char
  unicode : List Char

/-- The labels of a name in ASCII: those of an ASCII name are left as they are. -/
def asciiLabels? (name : List Char) : Option (List (List Char)) :=
  let labels := Text.splitAll '.' name
  if isAscii name then some labels else labels.mapM asciiLabel?

/-- Reads the name of a host. -/
def DomainName.ofText? (s : List Char) : Option DomainName := do
  if !s.all isNameChar then none
  else
    let name ← foldName? s
    if !name.all isNameChar || !isWellFormed (Text.splitAll '.' name) then none
    else
      let labels ← asciiLabels? name
      let ascii := Text.joinWith '.' labels
      if nameLimit < ascii.length || labels.any (labelLimit < ·.length) then none
      else
        let unicode := Text.joinWith '.' (← labels.mapM unicodeLabel?)
        return ⟨ascii, unicode⟩

end RecordRules.Net
