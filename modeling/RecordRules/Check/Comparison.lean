import RecordRules.Check.Basic
import RecordRules.Value.Equality

/-!
# Comparing values

`Value.compare` asks whether two values are equal and gives up where the question has no answer: at a
pair that is nested too deeply, and at a decimal that no comparison accepts. Lists are compared by
their lengths first and tuples by their items, dictionaries by the values of equal keys, in the order
of the left one; the comparison ends with the first difference. Keys and the items of sets have
answers always (`Value.same`).
-/

namespace RecordRules.Value

/-- Which pairs of values can still be compared inside so many pairs of containers; which of the two
stands on the left does not matter. Comparing nested values takes a call for each pair of containers
around them, and it is for the caller to say how many calls there is room for. -/
structure PairRoom where
  allows : Nat → Value → Value → Bool
  comm : ∀ depth v w, allows depth v w = allows depth w v

/-- There is room for the pairs inside a number of pairs of containers at most. -/
def PairRoom.upTo (n : Nat) : PairRoom := ⟨fun depth _ _ => depth ≤ n, fun _ _ _ => rfl⟩

/-- A decimal that no comparison accepts. -/
def isSignaling : Value → Bool
  | decimal (.nan _ true _) => true
  | _ => false

/-- Values that are numbers or count as numbers. -/
def isNumber : Value → Bool
  | bool _ | int _ | float _ | decimal _ => true
  | _ => false

/-- One of two numbers is a decimal that no comparison accepts. -/
def clashes (v w : Value) : Bool := (isSignaling v && isNumber w) || (isSignaling w && isNumber v)

mutual

/-- Two values inside a number of pairs of containers are equal. -/
def compare (room : PairRoom) (depth : Nat) (v w : Value) : Except Cause Bool :=
  match v, w with
  | list vs, list ws =>
    if vs.length = ws.length then compareItems room (depth + 1) vs ws else .ok false
  | tuple vs, tuple ws => compareItems room (depth + 1) vs ws
  | dict vs, dict ws =>
    if vs.length = ws.length then compareEntries room (depth + 1) vs ws else .ok false
  | v, w => if clashes v w then .error .signalingNumber else .ok (same v w)

/-- The items of two lists are equal in turn. -/
def compareItems (room : PairRoom) (depth : Nat) : List Value → List Value → Except Cause Bool
  | [], ws => .ok ws.isEmpty
  | _ :: _, [] => .ok false
  | v :: vs, w :: ws =>
    if room.allows depth v w then do
      if ← compare room depth v w then compareItems room depth vs ws else return false
    else .error .comparedTooDeeply

/-- Each entry of the first dictionary has an equal value under an equal key of the second. -/
def compareEntries (room : PairRoom) (depth : Nat) :
    List (Value × Value) → List (Value × Value) → Except Cause Bool
  | [], _ => .ok true
  | (k, v) :: vs, ws =>
    match ws.find? (same k ·.1) with
    | none => .ok false
    | some (_, w) =>
      if room.allows depth v w then do
        if ← compare room depth v w then compareEntries room depth vs ws else return false
      else .error .comparedTooDeeply

end

end RecordRules.Value
