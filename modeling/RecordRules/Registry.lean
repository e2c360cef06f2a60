import RecordRules.Assoc
import RecordRules.Builtin
import RecordRules.Declaration

/-!
# Registries

A registry maps the names of rules to routines. Registering a name again replaces its routine. A name
must be one that declarations can hold, and what is registered must be a routine; otherwise the
registry stays as it is.
-/

namespace RecordRules

/-- Routines by the names of their rules. -/
structure Registry (α : Type) where
  entries : List (String × α)
  deriving Inhabited

/-- What is offered for registration: a routine, or a value of some kind that cannot be called. -/
inductive Offer (α : Type)
  | routine (a : α)
  | notCallable (kind : String)

/-- Why a registration is refused. -/
inductive RegistrationError
  | malformed (e : Malformed)
  | notCallable (rule kind : String)
  deriving DecidableEq, Repr

/-- The wording of a refusal. -/
def RegistrationError.message : RegistrationError → String
  | malformed e => e.message
  | notCallable rule kind => s!"Routine for rule '{rule}' must be callable, got {kind}"

/-- The declared rule has no routine. -/
structure UnknownRule where
  rule : String
  field : Option String
  deriving DecidableEq, Repr

/-- The wording of the complaint about an unknown rule. -/
def UnknownRule.message (e : UnknownRule) : String :=
  s!"Unknown validation rule '{e.rule}'" ++
    match e.field with
    | some field => s!" (field '{field}')"
    | none => ""

namespace Registry

variable {α β : Type}

/-- The registry without rules. -/
def empty : Registry α := ⟨[]⟩

/-- True of the names that a declaration can hold. -/
def isUsableName (name : String) : Bool :=
  name != "" && !name.toList.contains '|' && !name.toList.contains ','

/-- Registers a routine under a name. -/
def register (r : Registry α) (name : String) (offer : Offer α) :
    Except RegistrationError (Registry α) :=
  if isUsableName name then
    match offer with
    | .routine a => .ok ⟨Assoc.put name a r.entries⟩
    | .notCallable kind => .error (.notCallable name kind)
  else .error (.malformed ⟨name, .unusableName⟩)

/-- The registry with the given routines, registered in order. -/
def ofOffers (offers : List (String × Offer α)) : Except RegistrationError (Registry α) :=
  offers.foldlM (fun r (name, offer) => r.register name offer) empty

/-- A registry of its own with the routines of another, registered in their order. -/
def copy (r : Registry α) : Except RegistrationError (Registry α) :=
  ofOffers (r.entries.map fun (name, a) => (name, .routine a))

/-- The routine of a rule. -/
def get? (r : Registry α) (name : String) : Option α := r.entries.lookup name

/-- The routine of a rule that a field declares. -/
def resolve (r : Registry α) (name : String) (field : Option String) : Except UnknownRule α :=
  match r.get? name with
  | some a => .ok a
  | none => .error ⟨name, field⟩

/-- The registered names in the order of their characters. -/
def names (r : Registry α) : List String := (r.entries.map (·.1)).mergeSort (· ≤ ·)

/-- The number of rules. -/
def size (r : Registry α) : Nat := r.entries.length

/-- Changes every routine by a function. -/
def map (f : α → β) (r : Registry α) : Registry β := ⟨r.entries.map fun (name, a) => (name, f a)⟩

end Registry

namespace Value

mutual

/-- The kind of the part that keeps a value from being a key: lists, sets and dictionaries are no
keys, and a tuple is one if its items are. -/
def keyless? : Value → Option String
  | list _ => some "list"
  | set _ => some "set"
  | dict _ => some "dict"
  | tuple items => keylessItem? items
  | _ => none

/-- The kind of the first part of items that is no key. -/
def keylessItem? : List Value → Option String
  | [] => none
  | v :: rest => (keyless? v).or (keylessItem? rest)

end

end Value

/-- A value of this kind cannot be looked up. -/
structure NotKey where
  kind : String
  deriving DecidableEq, Repr

/-- The wording of the complaint about a value that cannot be looked up. -/
def NotKey.message (e : NotKey) : String := s!"unhashable type: '{e.kind}'"

/-- A value is the name of a rule. -/
def Registry.contains {α : Type} (r : Registry α) (v : Value) : Except NotKey Bool :=
  match v.keyless? with
  | some kind => .error ⟨kind⟩
  | none =>
    match v with
    | .text name => .ok (r.get? name).isSome
    | _ => .ok false

/-- The rules of the library as they are offered to a registry. -/
def Builtin.offers (host : Host) : List (String × Offer Check) :=
  (checks host).map fun (name, check) => (name, .routine check)

/-- The registry of the rules that come with the library. -/
def Registry.builtins (host : Host) : Registry Check := ⟨Builtin.checks host⟩

end RecordRules
