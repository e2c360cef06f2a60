import RecordRules.Value
import RecordRules.Text.Quoted

/-!
# The text of values

`Value.shown` is the text of a value inside messages and tables, where texts are quoted and
containers bracketed; `Value.plain` is the same but leaves a text by itself unquoted. Both fail on
an integer beyond the digit limit. `Value.shownIn` fails on a value inside too many containers too.
`Value.scalarText` is the text of a value as a form would submit it, which containers do not have.
-/

namespace RecordRules

/-- Why a value cannot be written as text: an integer in it has too many digits, or it is nested too
deeply. -/
inductive TooLong
  | tooLong
  | tooDeep
  deriving DecidableEq, Repr

namespace TooLong

/-- The word for the kind of an error. -/
def kind : TooLong → String
  | tooLong => "ValueError"
  | tooDeep => "RecursionError"

/-- The wording of an error. -/
def message : TooLong → String
  | tooLong =>
    "Exceeds the limit (4300 digits) for integer string conversion; " ++
      "use sys.set_int_max_str_digits() to increase the limit"
  | tooDeep => "maximum recursion depth exceeded while getting the repr of an object"

end TooLong

namespace Value

/-- Which values can still be written inside so many containers. Writing a nested value takes a call
for each container around it, and it is for the caller to say how many calls there is room for. -/
abbrev Room := Nat → Value → Bool

/-- There is room for every value. -/
def Room.unlimited : Room := fun _ _ => true

/-- The text of an integer, unless it has too many digits. -/
def shownInt (n : Int) : Except TooLong String :=
  match Number.integerText? n with
  | some s => .ok s
  | none => .error .tooLong

/-- An optional text, quoted or as `None`. -/
def shownText? : Option String → String
  | some s => Text.quoted s
  | none => "None"

/-- The attributes of an upload, each as a name and a shown value, with a separator between
them. -/
def shownUpload (separator : String) (u : Upload) : Except TooLong String := do
  let error ← shownInt u.error
  let size ← shownInt u.size
  return separator.intercalate
    ["name=" ++ Text.quoted u.name, "error=" ++ error, "size=" ++ size,
      "type=" ++ shownText? u.type, "tmp_name=" ++ shownText? u.tmpName]

/-- The attributes of an invocation. -/
def shownInvocation (separator : String) (i : Invocation) : String :=
  separator.intercalate
    ["name=" ++ Text.quoted i.name, "raw_param=" ++ shownText? i.param]

/-- An offset from universal time as a time zone. -/
def shownZone (offset : Int) : String :=
  if offset = 0 then "datetime.timezone.utc"
  else
    let parts :=
      if offset < 0 then s!"days=-1, seconds={(offset + 86400).toNat}"
      else s!"seconds={offset.toNat}"
    "datetime.timezone(datetime.timedelta(" ++ parts ++ "))"

/-- The parts of a date and time; trailing zero seconds and microseconds are left out. -/
def shownDateTime (t : DateTime) : String :=
  let time := t.time
  let parts := [t.date.year, t.date.month, t.date.day, time.hour, time.minute] ++
    (if time.microsecond ≠ 0 then [time.second, time.microsecond]
      else if time.second ≠ 0 then [time.second] else [])
  "datetime.datetime(" ++ ", ".intercalate (parts.map Nat.repr ++
    (t.offset.map fun offset => "tzinfo=" ++ shownZone offset).toList) ++ ")"

mutual

/-- The text of a value inside a number of containers, with texts quoted. The items of a set are
written as those of a list inside the set. -/
def shownIn (room : Room) (depth : Nat) (v : Value) : Except TooLong String :=
  if room depth v then
    match v with
    | null => .ok "None"
    | bool b => .ok (if b then "True" else "False")
    | int n => shownInt n
    | float x => .ok x.text
    | decimal d => .ok ("Decimal('" ++ d.text ++ "')")
    | text s => .ok (Text.quoted s)
    | list items => do
      return "[" ++ ", ".intercalate (← shownItems room (depth + 1) items) ++ "]"
    | tuple [item] => do return "(" ++ (← shownIn room (depth + 1) item) ++ ",)"
    | tuple items => do
      return "(" ++ ", ".intercalate (← shownItems room (depth + 1) items) ++ ")"
    | set [] => .ok "set()"
    | set items => do
      return "\x7b" ++ ", ".intercalate (← shownItems room (depth + 2) items) ++ "\x7d"
    | dict entries => do
      return "\x7b" ++ ", ".intercalate (← shownEntries room (depth + 1) entries) ++ "\x7d"
    | date d => .ok s!"datetime.date({d.year}, {d.month}, {d.day})"
    | datetime t => .ok (shownDateTime t)
    | upload u => do return "UploadDescriptor(" ++ (← shownUpload ", " u) ++ ")"
    | rule i => .ok ("RuleInvocation(" ++ shownInvocation ", " i ++ ")")
  else .error .tooDeep

/-- The texts of items. -/
def shownItems (room : Room) (depth : Nat) : List Value → Except TooLong (List String)
  | [] => .ok []
  | v :: rest => do
    let s ← shownIn room depth v
    return s :: (← shownItems room depth rest)

/-- The texts of dictionary entries. -/
def shownEntries (room : Room) (depth : Nat) :
    List (Value × Value) → Except TooLong (List String)
  | [] => .ok []
  | (k, v) :: rest => do
    let key ← shownIn room depth k
    let value ← shownIn room depth v
    return (key ++ ": " ++ value) :: (← shownEntries room depth rest)

end

/-- The text of a value, with texts quoted; there is room for containers of any depth. -/
def shown (v : Value) : Except TooLong String := v.shownIn .unlimited 0

/-- The text of a value by itself: a text is not quoted, a date is written in its own format. -/
def plain : Value → Except TooLong String
  | text s => .ok s
  | decimal d => .ok d.text
  | date d => .ok d.text
  | datetime t => .ok (t.textWith " ")
  | upload u => shownUpload " " u
  | rule i => .ok (shownInvocation " " i)
  | v => v.shown

/-- The text of a parameter inside a message: nothing for null, the items of a list or tuple with
commas between them, and otherwise the text of the value. -/
def paramText : Value → Except TooLong String
  | null => .ok ""
  | list items | tuple items => do
    let texts ← items.mapM plain
    return ", ".intercalate texts
  | v => v.plain

/-- The text of a scalar: texts as they are, numbers in digits, `true` as `1` and `false` as
nothing. Other values have none. -/
def scalarText : Value → Except TooLong (Option String)
  | bool b => .ok (some (if b then "1" else ""))
  | text s => .ok (some s)
  | int n => (shownInt n).map some
  | float x => .ok (some x.text)
  | _ => .ok none

end Value

end RecordRules
