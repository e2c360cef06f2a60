import RecordRules.Command.Basic
import RecordRules.Display.Screen
import RecordRules.Engine
import RecordRules.File.Load
import RecordRules.Host.Standard
import RecordRules.Message.Locale
import RecordRules.Report.Json
import RecordRules.Report.Markdown

/-!
# Running commands

A command turns a request into an outcome: what is to be done, in order, and how the command ends.
The exit code of a validation is 0 when every record is in order, 1 when some record is not, and 2 when
there is nothing to validate: a file is missing, it cannot be loaded, or a rule cannot be carried out.
Files are seen through a function from paths to entries. On a screen a command may end earlier
(`Outcome.on`): the screen can refuse a text, and the command handles that as little as a crash.
-/

namespace RecordRules

/-- Why a file cannot be written. -/
inductive WriteFault
  | fileInTheWay (path : Path)
  | notFolder (path : Path)
  | isFolder (path : Path)
  deriving DecidableEq, Repr

/-- The wording of a fault. -/
def WriteFault.message : WriteFault → String
  | fileInTheWay path => "[Errno 17] File exists: " ++ Text.quoted path.text
  | notFolder path => "[Errno 20] Not a directory: " ++ Text.quoted path.text
  | isFolder path => "[Errno 21] Is a directory: " ++ Text.quoted path.text

/-- What a command does not handle. -/
inductive Crash
  | load (e : LoadError)
  | render (fault : RenderFault)
  | tooLong (e : TooLong)
  | write (fault : WriteFault)

/-- The wording of what is not handled. -/
def Crash.message : Crash → String
  | load e => e.message
  | render fault => fault.message
  | tooLong e => e.message
  | write fault => fault.message

/-- Something a command does: it shows something, writes on the standard output, or writes a file. -/
inductive Action
  | print (item : Shown)
  | output (text : String)
  | write (path : Path) (content : String)
  deriving DecidableEq, Repr

/-- What a command is about to do, and how it ends when nothing keeps it from that. -/
structure Outcome where
  exitCode : Nat
  actions : List Action
  crash : Option Crash

/-- The wording of the complaint about an evaluation. -/
def EvaluationError.message : EvaluationError → String
  | ruleset e => e.message
  | unknownRule e => e.message
  | routine e => e.message

/-- The version of the program. -/
def version : String := "0.1.0"

namespace Outcome

/-- What is to be shown. -/
def shown (o : Outcome) : List Shown :=
  o.actions.filterMap fun | .print item => some item | _ => none

/-- The text for the standard output. -/
def output (o : Outcome) : String :=
  String.join (o.actions.filterMap fun | .output text => some text | _ => none)

/-- The file to be written. -/
def written (o : Outcome) : Option (Path × String) :=
  o.actions.findSome? fun | .write path content => some (path, content) | _ => none

/-- Something is shown. -/
def ofShown (shown : List Shown) : Outcome := ⟨0, shown.map .print, none⟩

/-- The program is used wrongly. -/
def ofMisuse : Outcome := ⟨2, [], none⟩

/-- A command is given up with a message. -/
def refused (actions : List Action) (title message : String) : Outcome :=
  ⟨2, actions ++ [.print (.line (s!"[bold red]{title}:[/bold red] " ++ message))], none⟩

/-- A command ends in a way it does not handle. -/
def crashed (actions : List Action) (crash : Crash) : Outcome := ⟨1, actions, some crash⟩

end Outcome

/-! ## Screens -/

/-- What ends a command before its time: a crash, or a text that a screen refuses. -/
inductive Halt
  | crash (c : Crash)
  | refused (complaint : String)

/-- The wording of what ends a command. -/
def Halt.message : Halt → String
  | crash c => c.message
  | refused complaint => complaint

/-- How a command ends on a screen: its exit code, what is done by then, and what ends it. -/
structure Ending where
  exitCode : Nat
  done : List Action
  halt : Option Halt

/-- The complaint about what is done: only what is shown can be refused. -/
def Screen.obstacle? (screen : Screen) : Action → Option String
  | .print item => screen.complaintAbout? item
  | _ => none

/-- How a command ends on a screen. What comes before the first text that is refused is done, and then
the command ends with the code of a crash. -/
def Outcome.on (o : Outcome) (screen : Screen) : Ending :=
  match o.actions.findSome? screen.obstacle? with
  | none => ⟨o.exitCode, o.actions, o.crash.map .crash⟩
  | some complaint =>
    ⟨1, o.actions.takeWhile fun a => (screen.obstacle? a).isNone, some (.refused complaint)⟩

namespace LoadError

/-- A command reports an error itself, unless a file is missing or is a folder, or a limit is passed
that is more than a bad value. -/
def isReported : LoadError → Bool
  | noRuleset _ | noRecords _ | isFolder _ => false
  | limit cause => cause.kind == "ValueError"
  | _ => true

end LoadError

namespace Validation

/-- What a validation works on. -/
structure Inputs where
  rules : Ruleset
  records : List Record
  catalog : Catalog

/-- Why there are no inputs. -/
inductive InputError
  | load (e : LoadError)
  | catalog (e : CatalogError)

/-- What comes of loading the rule set, the records and the catalog. -/
structure Loads where
  rules : Except LoadError Ruleset
  records : Except LoadError (List Record)
  catalog : Except CatalogError Catalog

/-- The inputs that were loaded, or the first error. -/
def Loads.inputs (loads : Loads) : Except InputError Inputs := do
  let rules ← loads.rules.mapError .load
  let records ← loads.records.mapError .load
  let catalog ← loads.catalog.mapError .catalog
  return ⟨rules, records, catalog⟩

/-- Loads the rule set, the records and the catalog. -/
def loads (v : Validation) (find : Path → Entry String) (host : Host) : Loads where
  rules := Ruleset.load v.rules (find v.rules) host.fileDepth
  records := Record.load v.data (find v.data) host.readTable host.fileDepth
  catalog := Catalog.load v.locale

/-- The results of the records in order, up to the first that cannot be evaluated. -/
def Inputs.results (host : Host) (inputs : Inputs) : Except EvaluationError (List Result) :=
  inputs.records.mapM ((Registry.builtins host).evaluate · inputs.rules.declarations)

/-- Lines that tables go with, left out when the output is JSON. -/
def remarks (v : Validation) (lines : List String) : List Action :=
  if v.asJson then [] else lines.map fun text => .print (.line text)

/-- Why a file cannot be written at a path: there is a file where a folder is needed, or a folder
where the file is needed. -/
def writeFault? (find : Path → Entry String) (path : Path) : Option WriteFault :=
  let folder := path.parent
  let onTheWay := (List.range folder.steps.length).map fun n =>
    { folder with steps := folder.steps.take n }
  if (find folder).isFile then some (.fileInTheWay folder)
  else if onTheWay.any fun p => (find p).isFile then some (.notFolder folder)
  else
    match find path with
    | .folder => some (.isFolder path)
    | _ => none

/-- The outcome once the report is presented: the report is written as a document if that is asked
for, and the exit code tells whether all records are in order. -/
def conclude (v : Validation) (find : Path → Entry String) (report : Report)
    (actions : List Action) : Outcome :=
  let exitCode := if report.allValid then 0 else 1
  match v.markdown with
  | none => ⟨exitCode, actions, none⟩
  | some path =>
    match writeFault? find path with
    | some fault => .crashed actions (.write fault)
    | none =>
      let note := v.remarks [s!"\n[green]Report written to {path.text}[/green]"]
      ⟨exitCode, actions ++ .write path report.markdown :: note, none⟩

/-- Presents a report: as JSON, or as a summary and a table of failures. -/
def present (v : Validation) (find : Path → Entry String) (host : Host) (report : Report)
    (actions : List Action) : Outcome :=
  if v.asJson then v.conclude find report (actions ++ [.output (report.json ++ "\n")])
  else
    let summary := actions ++ (.blank :: report.showSummary).map .print
    match report.showFailures v.limit host.writing with
    | .error e => .crashed summary (.tooLong e)
    | .ok failures => v.conclude find report (summary ++ failures.map .print)

/-- Evaluates every record and presents the report. -/
def evaluate (v : Validation) (find : Path → Entry String) (host : Host) (generatedAt : String)
    (inputs : Inputs) (actions : List Action) : Outcome :=
  let actions := actions ++ v.remarks [s!"[bold blue][2/2][/bold blue] Validating " ++
    s!"{inputs.records.length} records against {inputs.rules.length} fields..."]
  match inputs.results host with
  | .error e => .refused actions "Validation error" e.message
  | .ok results =>
    match Report.ofResults inputs.catalog v.data.name generatedAt results with
    | .error fault => .crashed actions (.render fault)
    | .ok report => v.present find host report actions

/-- The outcome of a validation, given what comes of loading. -/
def respond (v : Validation) (find : Path → Entry String) (host : Host) (generatedAt : String)
    (loads : Loads) : Outcome :=
  let actions := v.remarks [s!"\n[bold blue][1/2][/bold blue] Loading {v.data.name}..."]
  match loads.inputs with
  | .error (.load e) =>
    if e.isReported then .refused actions "Error loading inputs" e.message
    else .crashed actions (.load e)
  | .error (.catalog e) => .refused actions "Error loading inputs" e.message
  | .ok inputs => v.evaluate find host generatedAt inputs actions

/-- The outcome of a validation. -/
def run (v : Validation) (find : Path → Entry String) (host : Host) (generatedAt : String) :
    Outcome :=
  match [v.data, v.rules].find? fun path => !(find path).isFile with
  | some path => .refused [] "Error" s!"File not found: {path.text}"
  | none => v.respond find host generatedAt (v.loads find host)

end Validation

/-- The list of the rules with the templates of a locale. -/
def runRules (host : Host) (locale : String) : Outcome :=
  match Catalog.load locale with
  | .error e => .refused [] "Error" e.message
  | .ok catalog =>
    match catalog.showRules (Registry.builtins host).names with
    | .error e => .crashed [] (.tooLong e)
    | .ok shown => .ofShown shown

/-- The outcome of a request. -/
def Request.run (find : Path → Entry String) (host : Host) (generatedAt : String) :
    Request → Outcome
  | help => .ofShown []
  | misuse => .ofMisuse
  | version => .ofShown [.line ("fieldcheck " ++ RecordRules.version)]
  | rules locale => runRules host locale
  | validate v => v.run find host generatedAt

end RecordRules
