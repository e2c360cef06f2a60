import RecordRules.Text.Ranges

/-!
# White space

The characters that count as white space in record values, and trimming. Besides the separators of
Unicode they include the four ASCII information separators and the next-line control.
-/

namespace RecordRules.Text

/-- The white space characters. -/
def blanks : Ranges := [
  (0x9, 0xd), (0x1c, 0x20), (0x85, 0x85), (0xa0, 0xa0), (0x1680, 0x1680), (0x2000, 0x200a),
  (0x2028, 0x2029), (0x202f, 0x202f), (0x205f, 0x205f), (0x3000, 0x3000)]

/-- True of white space in any script. -/
def isBlank (c : Char) : Bool := blanks.has c.toNat

/-- True of the six ASCII white space characters. -/
def isAsciiBlank (c : Char) : Bool := c == ' ' || (9 ≤ c.toNat && c.toNat ≤ 13)

/-- Removes leading white space. -/
def trimLeft (s : List Char) : List Char := s.dropWhile isBlank

/-- Removes trailing white space. -/
def trimRight (s : List Char) : List Char := (s.reverse.dropWhile isBlank).reverse

/-- Removes white space from both ends. -/
def trim (s : List Char) : List Char := trimRight (trimLeft s)

/-- Removes white space from both ends of a string. -/
def trimmed (s : String) : String := .ofList (trim s.toList)

end RecordRules.Text
