import RecordRules.Check.Comparison
import RecordRules.Csv.Rows

/-!
# Hosts

What a rule set is evaluated on has a say in it. Which texts are addresses of electronic mail, which
upload the attributes in a dictionary stand for and how a table is taken apart are for other packages
to decide; the day is that of a clock, and how far nested values can be followed depends on the room
that is left on the stack of calls. A `Host` is all that, and the library is the same on every host.
-/

namespace RecordRules

/-- What the library leaves to others. -/
structure Host where
  /-- The day that counts as today. -/
  today : Date
  /-- A text is an address of electronic mail. The package that decides this may give up. -/
  isEmail : String → Except Cause Bool
  /-- The upload with the given attributes, if they make one. -/
  upload? : List (Value × Value) → Option Upload
  /-- The records in the text of a file with comma-separated values. -/
  readTable : List Char → Except Csv.Fault (List Record)
  /-- How deep the containers of a JSON text may be nested in a value. -/
  jsonDepth : Nat
  /-- The room for reading patterns. -/
  patterns : Pattern.Room
  /-- How deep the containers of a JSON text may be nested in a file. -/
  fileDepth : Nat
  /-- The room for comparing values. -/
  comparisons : Value.PairRoom
  /-- The room for writing values. -/
  writing : Value.Room

end RecordRules
