import RecordRules.Assoc
import RecordRules.Check.Basic

/-!
# Results

The result of validating a record is the list of its failures, in the order of declaration. This
module groups failures by field.
-/

namespace RecordRules

/-- The failures of one record. -/
structure Result where
  failures : List Failure
  deriving Inhabited

namespace Result

/-- The result without failures. -/
def valid : Result := ⟨[]⟩

/-- The record satisfies every rule. -/
def isValid (r : Result) : Bool := r.failures.isEmpty

/-- The failures grouped by field, fields in the order of their first failures. -/
def byField (r : Result) : List (String × List Failure) :=
  r.failures.foldl (fun acc f => Assoc.update f.field [] (· ++ [f]) acc) []

/-- The failing fields in the order of their first failures. -/
def fields (r : Result) : List String :=
  r.failures.foldl (fun acc f => if f.field ∈ acc then acc else acc ++ [f.field]) []

end Result

end RecordRules
