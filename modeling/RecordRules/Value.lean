import RecordRules.Number.Binary64
import RecordRules.Calendar.Date

/-!
# Record values

A record maps field names to values, and values are dynamic: whatever a data file or a form can
hold. This module defines `Value`, the two structured values among them (`Upload`, a file sent with
a form, and `Invocation`, a rule with its parameter), and `Record`.
-/

namespace RecordRules

/-- A rule by name with its unparsed parameter; no parameter and an empty one are different. -/
structure Invocation where
  name : String
  param : Option String
  deriving DecidableEq, Inhabited

/-- A file sent with a form: its name at the sender, a status code, its size in bytes, its media
type as claimed by the sender and the place where it was put. -/
structure Upload where
  name : String
  error : Int
  size : Int
  type : Option String
  tmpName : Option String
  deriving DecidableEq, Inhabited

/-- A value of a record, a parameter or a declaration. -/
inductive Value
  | null
  | bool (b : Bool)
  | int (n : Int)
  | float (x : Binary64)
  | decimal (d : Decimal)
  | text (s : String)
  | list (items : List Value)
  | tuple (items : List Value)
  | set (items : List Value)
  | dict (entries : List (Value × Value))
  | date (d : Date)
  | datetime (t : DateTime)
  | upload (u : Upload)
  | rule (i : Invocation)
  deriving Inhabited

/-- Field names with their values. Of a name that occurs twice the first entry counts. -/
abbrev Record := List (String × Value)

namespace Record

/-- The value of a field; a missing field reads as null. -/
def value (record : Record) (field : String) : Value := (record.lookup field).getD .null

end Record

namespace Value

/-- The word for the kind of a value. -/
def kind : Value → String
  | null => "NoneType"
  | bool _ => "bool"
  | int _ => "int"
  | float _ => "float"
  | decimal _ => "Decimal"
  | text _ => "str"
  | list _ => "list"
  | tuple _ => "tuple"
  | set _ => "set"
  | dict _ => "dict"
  | date _ => "date"
  | datetime _ => "datetime"
  | upload _ => "UploadDescriptor"
  | rule _ => "RuleInvocation"

/-- True of null. -/
def isNull : Value → Bool
  | null => true
  | _ => false

/-- True of the empty text and of empty containers. Zeros and `false` are data, not empty. -/
def isEmpty : Value → Bool
  | text s => s == ""
  | list items | tuple items | set items => items.isEmpty
  | dict entries => entries.isEmpty
  | _ => false

/-- True of null and of empty values: what a form sends for a field left blank. -/
def isBlank (v : Value) : Bool := v.isNull || v.isEmpty

end Value

end RecordRules
