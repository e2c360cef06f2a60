import RecordRules.Registry

/-!
# Live registries

A program may hold any number of registries and of engines that work on them. A registry is reached
by its own place or through an engine, so what is registered through an engine is found in the
registry that the engine works on. `Registries.perform` says what an operation does; one that is
refused leaves everything as it was (`Registries.step`).
-/

namespace RecordRules

/-- The registries in the order of their creation and, for each engine, the place of the registry
it works on. -/
structure Registries (α : Type) where
  live : List (Registry α)
  engines : List Nat

/-- A way to a registry: its place, or the number of an engine that works on it. -/
inductive Handle
  | registry (place : Nat)
  | engine (number : Nat)

/-- What is done to registries: one is created with the given routines, an engine is put on one, a
routine is registered in one, or one is copied. -/
inductive Operation (α : Type)
  | create (offers : List (String × Offer α))
  | attach (h : Handle)
  | register (h : Handle) (name : String) (offer : Offer α)
  | copy (h : Handle)

/-- Why an operation is refused. -/
inductive Refusal
  | notLive
  | registration (e : RegistrationError)

namespace Registries

variable {α : Type}

/-- No registries and no engines. -/
def empty : Registries α := ⟨[], []⟩

/-- The place that a handle leads to. -/
def place? (s : Registries α) : Handle → Option Nat
  | .registry place => some place
  | .engine number => s.engines[number]?

/-- The registry that a handle leads to, with its place. -/
def find (s : Registries α) (h : Handle) : Except Refusal (Nat × Registry α) :=
  match s.place? h with
  | none => .error .notLive
  | some place =>
    match s.live[place]? with
    | none => .error .notLive
    | some r => .ok (place, r)

/-- Adds a registry. -/
def add (s : Registries α) (r : Registry α) : Registries α := { s with live := s.live ++ [r] }

/-- The registries after an operation. -/
def perform (s : Registries α) : Operation α → Except Refusal (Registries α)
  | .create offers => do
    let r ← (Registry.ofOffers offers).mapError .registration
    return s.add r
  | .attach h => do
    let (place, _) ← s.find h
    return { s with engines := s.engines ++ [place] }
  | .register h name offer => do
    let (place, r) ← s.find h
    let changed ← (r.register name offer).mapError .registration
    return { s with live := s.live.set place changed }
  | .copy h => do
    let (_, r) ← s.find h
    let copied ← r.copy.mapError .registration
    return s.add copied

/-- The registries after an operation that may be refused. -/
def step (s : Registries α) (op : Operation α) : Registries α :=
  match s.perform op with
  | .ok changed => changed
  | .error _ => s

/-- The registries after operations in turn. -/
def run (s : Registries α) (ops : List (Operation α)) : Registries α := ops.foldl step s

end Registries

end RecordRules
