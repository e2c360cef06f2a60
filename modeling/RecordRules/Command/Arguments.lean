/-!
# Command-line arguments

An option has a long name and perhaps a letter, and takes a value or not. The value of a long option
follows an equals sign or is the next argument; letters may be joined behind one hyphen, and the value
of a letter is the rest of its argument or the next one. Two hyphens end the options. Arguments that
are no options are kept in order; where options and other arguments may not be mixed, the first of
the latter ends the options.
-/

namespace RecordRules.Command

/-- An option that a command understands. -/
structure OptionSpec where
  long : String
  letter : Option Char
  takesValue : Bool
  deriving DecidableEq, Repr

/-- An option as it is given, by its long name. -/
structure Given where
  long : String
  value : Option String
  deriving DecidableEq, Repr

/-- Arguments taken apart: the options in order and the other arguments in order. -/
structure Arguments where
  options : List Given
  others : List String
  deriving DecidableEq, Repr

/-- Arguments that the options do not allow: an option is unknown, it lacks its value, or it has one
though it takes none. -/
inductive Misuse
  | unknownOption (argument : String)
  | missingValue (long : String)
  | unwantedValue (long : String)
  deriving DecidableEq, Repr

namespace Arguments

/-- No arguments. -/
def none : Arguments := ⟨[], []⟩

/-- Adds an option in front. -/
def addOption (g : Given) (a : Arguments) : Arguments := { a with options := g :: a.options }

/-- Adds options in front. -/
def addOptions (gs : List Given) (a : Arguments) : Arguments := { a with options := gs ++ a.options }

/-- Adds another argument in front. -/
def addOther (s : String) (a : Arguments) : Arguments := { a with others := s :: a.others }

/-- The value of an option; of several the last counts. -/
def value? (a : Arguments) (long : String) : Option String :=
  (a.options.reverse.find? (·.long == long)).bind (·.value)

/-- An option is given. -/
def has (a : Arguments) (long : String) : Bool := a.options.any (·.long == long)

end Arguments

/-- What one argument holds: complete options, and perhaps one more that awaits its value. -/
structure Opening where
  complete : List Given
  awaiting : Option String

/-- Reads letters behind one hyphen. -/
def readLetters (specs : List OptionSpec) (argument : String) :
    List Char → Except Misuse Opening
  | [] => .ok ⟨[], none⟩
  | c :: rest =>
    match specs.find? (·.letter == some c) with
    | none => .error (.unknownOption argument)
    | some spec =>
      if spec.takesValue then
        if rest = [] then .ok ⟨[], some spec.long⟩
        else .ok ⟨[⟨spec.long, some (.ofList rest)⟩], none⟩
      else do
        let later ← readLetters specs argument rest
        return ⟨⟨spec.long, none⟩ :: later.complete, later.awaiting⟩

/-- Reads an argument that starts with a hyphen. -/
def readOption (specs : List OptionSpec) (argument : String) : Except Misuse Opening :=
  let cs := argument.toList
  let long : String := .ofList (cs.takeWhile (· ≠ '='))
  match specs.find? (·.long == long), (cs.dropWhile (· ≠ '=')).tail? with
  | some spec, some value =>
    if spec.takesValue then .ok ⟨[⟨long, some (.ofList value)⟩], none⟩
    else .error (.unwantedValue long)
  | some spec, none =>
    if spec.takesValue then .ok ⟨[], some long⟩ else .ok ⟨[⟨long, none⟩], none⟩
  | none, _ =>
    if cs.take 2 = ['-', '-'] then .error (.unknownOption argument)
    else readLetters specs argument (cs.drop 1)

/-- An argument that holds options: a hyphen and something behind it. -/
def isOption (argument : String) : Bool :=
  match argument.toList with
  | '-' :: _ :: _ => true
  | _ => false

/-- Takes arguments apart. With `mixed` options may follow other arguments. -/
def readArguments (specs : List OptionSpec) (mixed : Bool) : List String → Except Misuse Arguments
  | [] => .ok .none
  | argument :: rest =>
    if argument = "--" then .ok ⟨[], rest⟩
    else if isOption argument then do
      let opening ← readOption specs argument
      match opening.awaiting, rest with
      | none, rest => return (← readArguments specs mixed rest).addOptions opening.complete
      | some long, [] => throw (.missingValue long)
      | some long, value :: rest =>
        let later ← readArguments specs mixed rest
        return (later.addOption ⟨long, some value⟩).addOptions opening.complete
    else if mixed then return (← readArguments specs mixed rest).addOther argument
    else .ok ⟨[], argument :: rest⟩

end RecordRules.Command
