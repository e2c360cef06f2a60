import RecordRules.Command.Arguments
import RecordRules.File.Path
import RecordRules.Message.Catalog
import RecordRules.Number.Integer
import RecordRules.Display

/-!
# Commands

The program has three commands: to show its version, to list the rules with their templates, and to
validate the records of one file against the rule set of another. `Request.ofArguments` reads a
command line.
-/

namespace RecordRules

/-- What to validate, and how to present the outcome. -/
structure Validation where
  data : Path
  rules : Path
  locale : String
  markdown : Option Path
  asJson : Bool
  limit : Int
  deriving DecidableEq, Repr

/-- What a command line asks for; one that cannot be understood is a misuse. -/
inductive Request
  | help
  | misuse
  | version
  | rules (locale : String)
  | validate (v : Validation)
  deriving DecidableEq, Repr

namespace Command

/-- The option that asks for help. -/
def helpOption : OptionSpec := ⟨"--help", none, false⟩

/-- The option that chooses the locale of messages. -/
def localeOption : OptionSpec := ⟨"--locale", some 'l', true⟩

/-- The options before the name of the command. All of them ask for a text about the program. -/
def programOptions : List OptionSpec :=
  [helpOption, ⟨"--install-completion", none, false⟩, ⟨"--show-completion", none, false⟩]

/-- The options of a validation. -/
def validationOptions : List OptionSpec :=
  [helpOption, localeOption, ⟨"--markdown", some 'm', true⟩, ⟨"--json", none, false⟩,
    ⟨"--limit", none, true⟩]

/-- The locale that is asked for. -/
def localeOf (a : Arguments) : String := (a.value? localeOption.long).getD Catalog.genericLocale

/-- The greatest number of failures to show; a text that is no integer is none. -/
def limitOf? (a : Arguments) : Option Int :=
  match a.value? "--limit" with
  | none => some Report.defaultLimit
  | some text => Number.readInteger? text.toList

/-- The validation that arguments ask for. -/
def validation (a : Arguments) : Request :=
  match a.others, limitOf? a with
  | [data, rules], some limit =>
    .validate {
      data := .ofText data
      rules := .ofText rules
      locale := localeOf a
      markdown := (a.value? "--markdown").map .ofText
      asJson := a.has "--json"
      limit }
  | _, _ => .misuse

/-- Reads the arguments of a command. Help comes before everything but options that are not
understood. -/
def readCommand (specs : List OptionSpec) (request : Arguments → Request) (arguments : List String) :
    Request :=
  match readArguments specs true arguments with
  | .error _ => .misuse
  | .ok a => if a.has helpOption.long then .help else request a

/-- The request of a command that takes no arguments besides its options. -/
def withoutOthers (request : Request) (a : Arguments) : Request :=
  if a.others.isEmpty then request else .misuse

/-- The request of a command by name. -/
def ofName (name : String) (arguments : List String) : Request :=
  match name with
  | "version" => readCommand [helpOption] (withoutOthers .version) arguments
  | "rules" =>
    readCommand [helpOption, localeOption] (fun a => withoutOthers (.rules (localeOf a)) a) arguments
  | "validate" => readCommand validationOptions validation arguments
  | _ => .misuse

end Command

/-- The request of a command line. -/
def Request.ofArguments (arguments : List String) : Request :=
  match Command.readArguments Command.programOptions false arguments with
  | .error _ => .misuse
  | .ok a =>
    if !a.options.isEmpty then .help
    else
      match a.others with
      | [] => .misuse
      | name :: rest => Command.ofName name rest

end RecordRules
