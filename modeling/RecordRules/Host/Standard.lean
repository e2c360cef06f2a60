import RecordRules.Check.Upload
import RecordRules.Csv.Table
import RecordRules.Host
import RecordRules.Json.Reader
import RecordRules.Net.Email

/-!
# The standard host

The host that the program runs on: its own readers stand in for the other packages, and values are
followed to the depth for which a program that does little else has room. A day alone counts as the
standard host on that day.
-/

namespace RecordRules

/-- The standard host on a day. -/
def Host.standard (today : Date) : Host where
  today
  isEmail s := .ok (Net.Email.isAddress s.toList)
  upload? := Upload.ofAttributes?
  readTable := Csv.records
  jsonDepth := Json.usualDepth
  -- A group takes two calls.
  patterns pattern _ := 2 * Pattern.nesting pattern ≤ Json.usualDepth
  fileDepth := Json.usualDepth
  comparisons := .upTo Json.usualDepth
  writing depth _ := depth ≤ Json.usualDepth

instance : Coe Date Host := ⟨Host.standard⟩

end RecordRules
