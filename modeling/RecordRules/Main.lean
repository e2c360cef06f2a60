import RecordRules.Command.Run
import RecordRules.Display.Plain
import Std.Time.DateTime.Timestamp

/-!
# The program

Reads the command line, looks at the files that it names, runs the command on the standard host and
carries out what it comes to on a screen that reads marks.
-/

namespace RecordRules.Program

/-- What is at a path. -/
def look (path : Path) : IO (Entry String) := do
  match ← (IO.FS.realPath path.text).toBaseIO with
  | .error _ => return .absent
  | .ok place => if ← place.isDir then return .folder else return .file (← IO.FS.readFile place)

/-- The paths that a request may need: the inputs, the document to be written and the folders on
the way to it. -/
def pathsOf : Request → List Path
  | .validate v =>
    let way := v.markdown.toList.flatMap fun path =>
      (List.range (path.steps.length + 1)).map fun n => { path with steps := path.steps.take n }
    v.data :: v.rules :: way
  | _ => []

/-- The present moment. -/
def now : IO (Option DateTime) := do
  let seconds := (← Std.Time.Timestamp.now).toSecondsSinceUnixEpoch.val
  return DateTime.ofEpoch? (seconds.toNat * 1000000)

/-- Writes a file, with the folders that lead to it. -/
def write (path : Path) (content : String) : IO Unit := do
  IO.FS.createDirAll path.parent.text
  IO.FS.writeFile path.text content

/-- The forms of the command line. -/
def usage : String :=
  "usage: fieldcheck version\n" ++
  "       fieldcheck rules [--locale LOCALE]\n" ++
  "       fieldcheck validate DATA RULES [--locale LOCALE] [--markdown FILE] [--json] [--limit N]"

/-- Tells how the program is used, if it is asked for help or used wrongly. -/
def advise : Request → IO Unit
  | .help => IO.println usage
  | .misuse => IO.eprintln usage
  | _ => return

/-- Does what a command does. -/
def perform : Action → IO Unit
  | .print item => item.plain.forM IO.println
  | .output text => IO.print text
  | .write path content => write path content

/-- Carries out what a command comes to and gives its exit code. -/
def carryOut (e : Ending) : IO UInt32 := do
  e.done.forM perform
  if let some halt := e.halt then
    IO.eprintln halt.message
  return UInt32.ofNat e.exitCode

/-- Runs a command line. -/
def run (arguments : List String) : IO UInt32 := do
  let request := Request.ofArguments arguments
  advise request
  let entries ← (pathsOf request).mapM fun path => return (path, ← look path)
  let find (path : Path) : Entry String := (entries.lookup path).getD .absent
  match ← now with
  | none =>
    IO.eprintln "The date is out of range"
    return 1
  | some moment =>
    let outcome := request.run find (.standard moment.date) (moment.textWith "T")
    carryOut (outcome.on .ofMarks)

end RecordRules.Program

/-- The entry of the program. -/
def main (arguments : List String) : IO UInt32 := RecordRules.Program.run arguments
