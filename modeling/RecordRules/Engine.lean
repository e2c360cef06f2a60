import RecordRules.Registry
import RecordRules.Result
import RecordRules.Ruleset

/-!
# Evaluation

To evaluate a record, every declared rule is first looked up, so that a rule that does not exist is
found before any routine runs. Then the routines run in the order of declaration, and their failures
are the result. A routine that gives up ends the evaluation.
-/

namespace RecordRules

/-- A routine gave up on a field. -/
structure RoutineFault where
  field : String
  rule : String
  cause : Cause

/-- The wording of the complaint about a routine. -/
def RoutineFault.message (e : RoutineFault) : String :=
  s!"Rule '{e.rule}' raised {e.cause.kind} on field '{e.field}': {e.cause.message}"

/-- Why a record cannot be evaluated. -/
inductive EvaluationError
  | ruleset (e : RulesetError)
  | unknownRule (e : UnknownRule)
  | routine (e : RoutineFault)

/-- A routine to be run on a field. -/
structure Step where
  field : String
  rule : String
  param : Option String
  check : Check

namespace Step

/-- Runs the routine of a step. -/
def run (s : Step) (record : Record) : Except RoutineFault (Option Failure) :=
  (s.check s.field record s.param).mapError fun cause => ⟨s.field, s.rule, cause⟩

end Step

/-- A run of routines: the steps whose routines are called, in order, and what comes of it. -/
structure Traced (ε α : Type) where
  calls : List Step
  outcome : Except ε α

namespace Step

/-- Runs steps in order, up to the first routine that gives up. -/
def trace (record : Record) : List Step → Traced RoutineFault (List Failure)
  | [] => ⟨[], .ok []⟩
  | s :: rest =>
    match s.run record with
    | .error e => ⟨[s], .error e⟩
    | .ok failure =>
      let later := trace record rest
      ⟨s :: later.calls, later.outcome.map (failure.toList ++ ·)⟩

/-- What comes of a run of steps. -/
def runAll (record : Record) (steps : List Step) : Except RoutineFault (List Failure) :=
  (trace record steps).outcome

/-- The steps whose routines a run calls: all of them, or those up to the first that gives up. -/
def called (record : Record) (steps : List Step) : List Step := (trace record steps).calls

end Step

namespace Registry

/-- The steps of the rules of one field. -/
def fieldPlan (r : Registry Check) (field : String) (invocations : List Invocation) :
    Except UnknownRule (List Step) :=
  invocations.mapM fun i => do return ⟨field, i.name, i.param, ← r.resolve i.name (some field)⟩

/-- The steps of a rule set, in the order of declaration. -/
def plan (r : Registry Check) (rules : Ruleset) : Except UnknownRule (List Step) := do
  let plans ← rules.mapM fun (field, invocations) => r.fieldPlan field invocations
  return plans.flatten

/-- Evaluates a record against a rule set. -/
def traceParsed (r : Registry Check) (record : Record) (rules : Ruleset) :
    Traced EvaluationError Result :=
  match r.plan rules with
  | .error e => ⟨[], .error (.unknownRule e)⟩
  | .ok steps =>
    let run := Step.trace record steps
    ⟨run.calls, (run.outcome.mapError .routine).map Result.mk⟩

/-- Evaluates a record against declarations. -/
def trace (r : Registry Check) (record : Record) (declarations : Declarations) :
    Traced EvaluationError Result :=
  match parseRuleset declarations with
  | .error e => ⟨[], .error (.ruleset e)⟩
  | .ok rules => r.traceParsed record rules

/-- What comes of the evaluation of a record against a rule set. -/
def evaluateParsed (r : Registry Check) (record : Record) (rules : Ruleset) :
    Except EvaluationError Result :=
  (r.traceParsed record rules).outcome

/-- What comes of the evaluation of a record against declarations. -/
def evaluate (r : Registry Check) (record : Record) (declarations : Declarations) :
    Except EvaluationError Result :=
  (r.trace record declarations).outcome

/-- The steps whose routines the evaluation of a record calls, in order. -/
def calledBy (r : Registry Check) (record : Record) (declarations : Declarations) : List Step :=
  (r.trace record declarations).calls

end Registry

end RecordRules
