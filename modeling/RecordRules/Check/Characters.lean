import RecordRules.Check.Basic

/-!
# Character rules

Rules on the characters that a text is made of. The Latin rules know the ASCII letters and the
letters of the Latin-1 supplement and ignore case; the Persian and Pashto rules list the letters,
digits and signs of their scripts, with the joiners and non-joiners that stand inside words.
-/

namespace RecordRules.Check

open RecordRules.Pattern (Member Leaf)

/-- The Latin letters: ASCII and Latin-1 supplement, without the signs of multiplication and
division. -/
def latinLetters : List Member :=
  [.range 0x61 0x7a, .range 0xc0 0xd6, .range 0xd8 0xf6, .range 0xf8 0xff]

/-- The ASCII digits. -/
def asciiDigits : List Member := [.range 0x30 0x39]

/-- White space. -/
def whiteSpace : List Member := [.category .space false false]

/-- A character belongs to a set, case aside. -/
def inSet (members : List Member) (c : Char) : Bool := (Leaf.set .unicode false members).accepts c

/-- A rule that every character of a non-empty text belongs to a class. -/
def everyRule (rule : String) (p : Char → Bool) : Check :=
  Check.ofText rule fun s => !s.isEmpty && s.all p

/-- Letters only. -/
def alpha : Check := everyRule "alpha" (inSet latinLetters)

/-- Letters and digits. -/
def alphaNumeric : Check := everyRule "alpha_numeric" (inSet (latinLetters ++ asciiDigits))

/-- Letters, dashes and underscores. -/
def alphaDash : Check :=
  everyRule "alpha_dash" (inSet (latinLetters ++ [.single '_'.toNat, .single '-'.toNat]))

/-- Letters and white space. -/
def alphaSpace : Check := everyRule "alpha_space" (inSet (latinLetters ++ whiteSpace))

/-- Letters, digits and white space. -/
def alphaNumericSpace : Check :=
  everyRule "alpha_numeric_space" (inSet (latinLetters ++ asciiDigits ++ whiteSpace))

/-- True of the characters of names: those of words except decimal digits and underscores, the
space, the apostrophe and the hyphen. -/
def isNameChar (c : Char) : Bool :=
  (Text.isAlphanumeric c && !Text.isDecimalDigit c) || c == ' ' || c == '\'' || c == '-'

/-- The name of a person. -/
def validName : Check := everyRule "valid_name" isNameChar

/-- Something like a street address: it has a letter, a digit and a space. -/
def streetAddress : Check := Check.ofTest "street_address" fun v _ => do
  let text ← v.scalarText.mapError .tooLong
  let s := (text.getD "").toList
  return s.any Char.isAlpha && s.any Char.isDigit && s.any Text.isBlank

/-! ## Persian and Pashto -/

/-- The letters of Persian, with the Arabic forms in use. -/
def persianLetters : List Nat :=
  [0x627, 0x622, 0x623, 0x625, 0x628, 0x67e, 0x62a, 0x62b, 0x62c, 0x686, 0x62d, 0x62e, 0x62f,
   0x630, 0x631, 0x632, 0x698, 0x633, 0x634, 0x635, 0x636, 0x637, 0x638, 0x639, 0x63a, 0x641,
   0x642, 0x6a9, 0x643, 0x6af, 0x644, 0x645, 0x646, 0x648, 0x624, 0x647, 0x629, 0x6cc, 0x64a,
   0x626, 0x621]

/-- The letters that Pashto has besides. -/
def pashtoLetters : List Nat :=
  [0x67c, 0x681, 0x685, 0x689, 0x693, 0x696, 0x69a, 0x6ab, 0x6bc, 0x6d0, 0x6cd]

/-- Punctuation and signs, from the full stop to the Arabic percent sign and separators. -/
def persianPunctuation : List Nat :=
  [0x2e, 0x2f, 0x5c, 0x3d, 0x2d, 0x7c, 0x7b, 0x7d, 0x5b, 0x5d, 0x61b, 0x3a, 0xab, 0xbb, 0x61f,
   0x3e, 0x3c, 0x2b, 0x28, 0x29, 0x2a, 0x60c, 0xd7, 0x66a, 0x66b, 0x66c, 0x21]

/-- Quotation marks of several kinds, and the byte order mark. -/
def quotationMarks : List Nat :=
  [0xfeff, 0x22, 0x27, 0x60, 0xb4, 0x2018, 0x2019, 0x201c, 0x201d]

/-- True of the vowel signs of the Arabic script. -/
def isVowelSign (c : Char) : Bool := 0x64b ≤ c.toNat && c.toNat ≤ 0x652

/-- True of the zero width space, non-joiner and joiner. -/
def isZeroWidth (c : Char) : Bool := 0x200b ≤ c.toNat && c.toNat ≤ 0x200d

/-- True of the Persian and the Arabic digits. -/
def isPersianDigit (c : Char) : Bool :=
  (0x6f0 ≤ c.toNat && c.toNat ≤ 0x6f9) || (0x660 ≤ c.toNat && c.toNat ≤ 0x669)

/-- True of the characters of Persian words. -/
def isPersianWordChar (c : Char) : Bool :=
  persianLetters.contains c.toNat || isVowelSign c || isZeroWidth c

/-- True of the Latin letters of English, Persian and Pashto names. -/
def isPlainLatin (c : Char) : Bool :=
  c.isAlpha || (0xc0 ≤ c.toNat && c.toNat ≤ 0xff && c.toNat != 0xd7 && c.toNat != 0xf7)

/-- True of the characters of Persian texts. -/
def isPersianTextChar (c : Char) : Bool :=
  isPersianWordChar c || persianPunctuation.contains c.toNat || isPersianDigit c ||
    quotationMarks.contains c.toNat || Text.isBlank c

/-- Persian letters and spaces. -/
def validPersianName : Check :=
  everyRule "valid_persian_name" fun c => isPersianWordChar c || c == ' '

/-- English, Persian or Pashto letters with white space, apostrophes and hyphens. -/
def validEngPerPasName : Check :=
  everyRule "valid_eng_per_pas_name" fun c =>
    isPlainLatin c || c == '\'' || c == '-' || isPersianWordChar c ||
      pashtoLetters.contains c.toNat || Text.isBlank c

/-- Persian or Arabic digits. -/
def validPersianDigit : Check := everyRule "valid_persian_digit" isPersianDigit

/-- Persian letters, digits and punctuation. -/
def validPersianText : Check := everyRule "valid_persian_text" isPersianTextChar

/-- Persian and Pashto letters, digits and punctuation. -/
def validPashtuText : Check :=
  everyRule "valid_pashtu_text" fun c =>
    isPersianTextChar c || pashtoLetters.contains c.toNat

end RecordRules.Check
