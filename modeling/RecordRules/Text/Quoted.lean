import RecordRules.Text.Printable

/-!
# Quoted text

Text between quotes, as it is shown inside error messages and tables. Apostrophes are the quotes
unless the text holds an apostrophe and no double quote; the quote in use and the backslash are
escaped, tab, line feed and carriage return have short escapes, and other characters without a
printed form are written in hexadecimal, two, four or eight digits long.
-/

namespace RecordRules.Text

/-- The lower-case hexadecimal digits of a number, at least `width` of them. -/
def hexDigits (width n : Nat) : List Char :=
  let digits := Nat.toDigits 16 n
  List.replicate (width - digits.length) '0' ++ digits

/-- The quote to put around a text. -/
def quoteFor (s : List Char) : Char :=
  if s.contains '\'' && !s.contains '"' then '"' else '\''

/-- The hexadecimal escape of a character, in the shortest of the three widths that holds it. -/
def hexEscape (c : Char) : List Char :=
  if c.toNat < 0x100 then '\\' :: 'x' :: hexDigits 2 c.toNat
  else if c.toNat < 0x10000 then '\\' :: 'u' :: hexDigits 4 c.toNat
  else '\\' :: 'U' :: hexDigits 8 c.toNat

/-- A character as it stands between the given quotes. -/
def quoteChar (quote c : Char) : List Char :=
  if c == quote || c == '\\' then ['\\', c]
  else if c == '\t' then ['\\', 't']
  else if c == '\n' then ['\\', 'n']
  else if c == '\r' then ['\\', 'r']
  else if isPrintable c then [c]
  else hexEscape c

/-- A text between quotes. -/
def quoteChars (s : List Char) : List Char :=
  quoteFor s :: s.flatMap (quoteChar (quoteFor s)) ++ [quoteFor s]

/-- A string between quotes. -/
def quoted (s : String) : String := .ofList (quoteChars s.toList)

end RecordRules.Text
