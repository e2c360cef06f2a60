import RecordRules.Json.Writer
import RecordRules.Report

/-!
# Reports in JSON

`Report.json` writes a report as a JSON object. Values of records become JSON values: numbers that
are not finite become null, decimals and dates become texts, tuples and sets become arrays, and the
keys of dictionaries become texts.
-/

namespace RecordRules

namespace Value

/-- The text of a moment in JSON: universal time is marked by a letter. -/
def momentText (t : DateTime) : String :=
  match t.offset with
  | some 0 => ({ t with offset := none } : DateTime).textWith "T" ++ "Z"
  | _ => t.textWith "T"

/-- A double precision number in JSON. -/
def floatTree (x : Binary64) : Json.Tree :=
  match x with
  | .finite .. => .word (FloatStyle.json.text x)
  | _ => .null

/-- The attributes of an upload in JSON. -/
def uploadTree (u : Upload) : Json.Tree :=
  .object [("name", .text u.name), ("error", .word (Number.integerText u.error)),
    ("size", .word (Number.integerText u.size)), ("type", .optionalText u.type),
    ("tmp_name", .optionalText u.tmpName)]

/-- The parts of an invocation in JSON. -/
def invocationTree (i : Invocation) : Json.Tree :=
  .object [("name", .text i.name), ("raw_param", .optionalText i.param)]

mutual

/-- The text of a key of a dictionary in JSON. -/
def keyText : Value → String
  | null => "None"
  | bool b => if b then "true" else "false"
  | int n => Number.integerText n
  | float x => x.text
  | decimal d => d.text
  | text s => s
  | date d => d.text
  | datetime t => momentText t
  | tuple items => ",".intercalate (keyTexts items)
  | _ => ""

/-- The texts of the items of a key. -/
def keyTexts : List Value → List String
  | [] => []
  | v :: rest => keyText v :: keyTexts rest

end

mutual

/-- A value in JSON. -/
def jsonTree : Value → Json.Tree
  | null => .null
  | bool b => .bool b
  | int n => .word (Number.integerText n)
  | float x => floatTree x
  | decimal d => .text d.text
  | text s => .text s
  | list items | tuple items | set items => .array (jsonTrees items)
  | dict entries => .object (jsonMembers entries)
  | date d => .text d.text
  | datetime t => .text (momentText t)
  | upload u => uploadTree u
  | rule i => invocationTree i

/-- Items in JSON. -/
def jsonTrees : List Value → List Json.Tree
  | [] => []
  | v :: rest => jsonTree v :: jsonTrees rest

/-- Entries in JSON. -/
def jsonMembers : List (Value × Value) → List (String × Json.Tree)
  | [] => []
  | (k, v) :: rest => (keyText k, jsonTree v) :: jsonMembers rest

end

end Value

namespace Report

/-- A row in JSON. -/
def rowTree (row : ReportRow) : Json.Tree :=
  .object [("record_index", .number row.index), ("field", .text row.failure.field),
    ("rule", .text row.failure.rule), ("value", row.failure.value.jsonTree),
    ("param", row.failure.param.jsonTree), ("message", .text row.message)]

/-- Counts in JSON. -/
def countTree (counts : List (String × Nat)) : Json.Tree :=
  .object (counts.map fun (key, n) => (key, .number n))

/-- The report in JSON. -/
def json (r : Report) : String :=
  (Json.Tree.object [("source", .text r.source), ("total_records", .number r.total),
    ("invalid_records", .number r.invalid), ("failure_count", .number r.failureCount),
    ("pass_rate", Value.floatTree r.passRate), ("rows", .array (r.rows.map rowTree)),
    ("summary_by_field", countTree r.byField), ("summary_by_rule", countTree r.byRule),
    ("generated_at", .text r.generatedAt)]).pretty

end Report

end RecordRules
