import RecordRules.Check.Comparison
import RecordRules.Parameter

/-!
# Consistency of fields

`equalsField` compares a field with another field of the same record.
-/

namespace RecordRules.Check

/-- A value compared with itself. Its items are the same items, which are not compared; by itself
"not a number" does not equal itself, or has no answer. -/
def equalsItself (v : Value) : Except Cause Bool :=
  if v.isSignaling then .error .signalingNumber else .ok v.isReflexive

/-- The field holds a value, and it equals that of another field. The other one stands on the left. -/
def equalFields (room : Value.PairRoom) (record : Record) (field other : String) :
    Except Cause Bool :=
  let w := record.value other
  if w.isNull then .ok false
  else if other = field then equalsItself w
  else w.compare room 0 (record.value field)

/-- The value equals the value of the field that the parameter names, which must be there. -/
def equalsField (room : Value.PairRoom) : Check := fun field record param =>
  Check.optional "equalsfield" (fun _ _ _ => do
    let other := Text.trimmed (← Parameter.required "equalsfield" param)
    return if ← equalFields room record field other then .pass else .fail (.text other))
    field record param

end RecordRules.Check
