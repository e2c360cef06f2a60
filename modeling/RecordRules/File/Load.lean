import RecordRules.Csv.Table
import RecordRules.File.Folder
import RecordRules.Json.Reader
import RecordRules.Ruleset
import RecordRules.Text.Case
import RecordRules.Text.Newline

/-!
# Loading rule sets and records

A rule set is loaded from a file with a JSON object that maps fields to declarations. Records are
loaded from a file whose suffix tells its format: a JSON object, a JSON array of objects, or
comma-separated values with a row of names. Tables are taken apart by a reader of another package
(`Csv.records` unless another is given), and JSON texts are read up to a depth of containers.
-/

namespace RecordRules

/-- Why a file cannot be loaded. -/
inductive LoadError
  | noRuleset (path : Path)
  | noRecords (path : Path)
  | isFolder (path : Path)
  | rulesetJson (path : Path) (text : List Char) (complaint : Json.Complaint) (place : Nat)
  | recordsJson (text : List Char) (complaint : Json.Complaint) (place : Nat)
  | limit (cause : Cause)
  | rulesetNotObject (path : Path)
  | recordsNotObjects (path : Path)
  | unsupportedSuffix (suffix : String)
  | csv (fault : Csv.Fault)
  | ruleset (e : RulesetError)

/-- The wording of the complaint about declarations. -/
def RulesetError.message : RulesetError → String
  | malformed e => e.message
  | unshowable e => e.message

/-- The wording of an error. -/
def LoadError.message : LoadError → String
  | noRuleset path => s!"Rule set file not found: {path.text}"
  | noRecords path => s!"Data file not found: {path.text}"
  | isFolder path => "[Errno 21] Is a directory: " ++ Text.quoted path.text
  | rulesetJson path text complaint place =>
    s!"Rule set file {path.text} is not valid JSON: " ++ Json.complaintMessage text complaint place
  | recordsJson text complaint place => Json.complaintMessage text complaint place
  | limit cause => cause.message
  | rulesetNotObject path => s!"Rule set file {path.text} must contain a JSON object"
  | recordsNotObjects path => s!"{path.text} must contain a JSON object or an array of objects"
  | unsupportedSuffix suffix =>
    s!"Unsupported data file type '{suffix}' (expected .json or .csv)"
  | csv fault => fault.message
  | ruleset e => e.message

namespace Value

/-- The entries of an object by name. -/
def namedEntries (entries : List (Value × Value)) : List (String × Value) :=
  entries.filterMap fun
    | (text name, v) => some (name, v)
    | _ => none

/-- The record in an object. -/
def toRecord? : Value → Option Record
  | dict entries => some (namedEntries entries)
  | _ => none

end Value

/-- The rule set in the text of a file. -/
def Ruleset.ofFile (path : Path) (content : String) (depthLimit : Nat := Json.usualDepth) :
    Except LoadError Ruleset := do
  let text := Text.unifyNewlines content.toList
  match Json.read depthLimit text with
  | .error (.malformed complaint place) => throw (.rulesetJson path text complaint place)
  | .error (.limit cause) => throw (.limit cause)
  | .ok (.dict entries) => (parseRuleset (Value.namedEntries entries)).mapError .ruleset
  | .ok _ => throw (.rulesetNotObject path)

/-- The rule set at a path. -/
def Ruleset.load (path : Path) (entry : Entry String) (depthLimit : Nat := Json.usualDepth) :
    Except LoadError Ruleset :=
  match entry with
  | .absent => .error (.noRuleset path)
  | .folder => .error (.isFolder path)
  | .file content => Ruleset.ofFile path content depthLimit

/-- The records in the JSON text of a file. -/
def Record.ofJsonFile (path : Path) (content : String) (depthLimit : Nat := Json.usualDepth) :
    Except LoadError (List Record) :=
  let text := Text.unifyNewlines content.toList
  match Json.read depthLimit text with
  | .error (.malformed complaint place) => .error (.recordsJson text complaint place)
  | .error (.limit cause) => .error (.limit cause)
  | .ok (.dict entries) => .ok [Value.namedEntries entries]
  | .ok (.list items) =>
    match items.mapM Value.toRecord? with
    | some records => .ok records
    | none => .error (.recordsNotObjects path)
  | .ok _ => .error (.recordsNotObjects path)

/-- The records at a path. -/
def Record.load (path : Path) (entry : Entry String)
    (readTable : List Char → Except Csv.Fault (List Record) := Csv.records)
    (depthLimit : Nat := Json.usualDepth) : Except LoadError (List Record) :=
  let suffix : String := .ofList (Text.lowercase path.suffix.toList)
  match entry with
  | .absent => .error (.noRecords path)
  | .folder =>
    if suffix = ".csv" ∨ suffix = ".json" then .error (.isFolder path)
    else .error (.unsupportedSuffix suffix)
  | .file content =>
    if suffix = ".csv" then (readTable content.toList).mapError .csv
    else if suffix = ".json" then Record.ofJsonFile path content depthLimit
    else .error (.unsupportedSuffix suffix)

end RecordRules
