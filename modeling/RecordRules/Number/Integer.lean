import RecordRules.Number.Power
import RecordRules.Text.Blank
import RecordRules.Text.Letter

/-!
# Integers written in decimal digits

`readInteger?` reads an optional sign and decimal digits of any script, with single underscores
between digits and white space around. A text of more than `digitLimit` digits is refused, and so
is the printing of an integer that would need more.
-/

namespace RecordRules.Number

/-- The number a list of digit values stands for, most significant digit first. -/
def ofDigits (ds : List Nat) : Nat := ds.foldl (fun n d => 10 * n + d) 0

/-- The most digits an integer may have when it is read from text or written as text. -/
def digitLimit : Nat := 4300

/-- The number of decimal digits of a natural number. -/
def digitCount (n : Nat) : Nat := (Nat.toDigits 10 n).length

/-- The digit values of a digit group: digits, with single underscores between them. `after` is
true when an underscore may stand here, that is, right after a digit. -/
def groupedDigits? (after : Bool) : List Char → Option (List Nat)
  | [] => if after then some [] else none
  | c :: rest =>
    if c == '_' then
      if after then groupedDigits? false rest else none
    else
      match Text.digitValue? c with
      | some d => (groupedDigits? true rest).map (d :: ·)
      | none => none

/-- Splits an optional sign from a text; the flag is true for a minus. -/
def splitSign : List Char → Bool × List Char
  | '-' :: rest => (true, rest)
  | '+' :: rest => (false, rest)
  | s => (false, s)

/-- An integer from its sign and magnitude. -/
def signed (negative : Bool) (n : Nat) : Int := if negative then -(n : Int) else n

/-- Reads an integer. -/
def readInteger? (s : List Char) : Option Int :=
  let (negative, body) := splitSign (Text.trim s)
  match groupedDigits? false body with
  | some ds => if ds.length ≤ digitLimit then some (signed negative (ofDigits ds)) else none
  | none => none

/-- The decimal digits of an integer, with a minus sign when it is negative. -/
def integerText (n : Int) : String := if n < 0 then "-" ++ n.natAbs.repr else n.natAbs.repr

/-- The text of an integer, refused when it has more digits than the limit. -/
def integerText? (n : Int) : Option String :=
  if digitCount n.natAbs ≤ digitLimit then some (integerText n) else none

end RecordRules.Number
