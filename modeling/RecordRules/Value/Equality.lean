import RecordRules.Value

/-!
# Equality of values

Numbers are equal when they denote the same number, whatever their kind; `false` and `true` count
as 0 and 1. Lists equal lists, tuples equal tuples, and sets and dictionaries are compared without
regard to order. "Not a number" equals nothing.
-/

namespace RecordRules.Value

/-- An integer as a fraction's comparand: equal to a double precision number. -/
def intEqualsFloat (n : Int) (x : Binary64) : Bool := x.toInt? == some n

/-- An integer equals a decimal. -/
def intEqualsDecimal (n : Int) (d : Decimal) : Bool := (Decimal.ofInt n).sameNumber d

/-- Equality of two numbers of any kinds; values that are not numbers are not compared here. -/
def sameNumber : Value → Value → Bool
  | int m, int n => m == n
  | int m, float y => intEqualsFloat m y
  | int m, decimal e => intEqualsDecimal m e
  | float x, int n => intEqualsFloat n x
  | float x, float y => x.sameNumber y
  | float x, decimal e => x.equalsDecimal e
  | decimal d, int n => intEqualsDecimal n d
  | decimal d, float y => y.equalsDecimal d
  | decimal d, decimal e => d.sameNumber e
  | _, _ => false

/-- A truth value read as a number; other values are left alone. -/
def asNumber : Value → Value
  | bool b => int (if b then 1 else 0)
  | v => v

mutual

/-- Equality of values. Values have no identity here: an item that is "not a number" equals no item,
although a container may find an item equal to itself where it is the very same object. -/
def same : Value → Value → Bool
  | null, w => w.isNull
  | text s, text t => s == t
  | list vs, list ws => sameItems vs ws
  | tuple vs, tuple ws => sameItems vs ws
  | set vs, set ws => vs.length == ws.length && subset vs ws
  | dict vs, dict ws => vs.length == ws.length && subentries vs ws
  | date d, date e => d == e
  | datetime s, datetime t => s.sameMoment t
  | upload u, upload v => u == v
  | rule i, rule j => i == j
  | v, w => sameNumber v.asNumber w.asNumber

/-- Equality item by item. -/
def sameItems : List Value → List Value → Bool
  | [], ws => ws.isEmpty
  | _ :: _, [] => false
  | v :: vs, w :: ws => same v w && sameItems vs ws

/-- Every item of the first list equals some item of the second. -/
def subset : List Value → List Value → Bool
  | [], _ => true
  | v :: vs, ws => ws.any (same v ·) && subset vs ws

/-- Every entry of the first dictionary equals some entry of the second. -/
def subentries : List (Value × Value) → List (Value × Value) → Bool
  | [], _ => true
  | (k, v) :: vs, ws => ws.any (fun (l, w) => same k l && same v w) && subentries vs ws

end

/-- A value equals itself, unless it is "not a number". -/
def isReflexive : Value → Bool
  | float .nan => false
  | decimal (.nan ..) => false
  | _ => true

/-- Puts an entry into a dictionary: a key that is there keeps its place and takes the value. -/
def insertEntry (key value : Value) : List (Value × Value) → List (Value × Value)
  | [] => [(key, value)]
  | (k, v) :: rest =>
    if same k key then (k, value) :: rest else (k, v) :: insertEntry key value rest

/-- The dictionary with the given entries, later ones overriding earlier ones. -/
def dictOf (entries : List (Value × Value)) : Value :=
  dict (entries.foldl (fun acc (k, v) => insertEntry k v acc) [])

/-- The items of a set in the order in which they are kept: whole numbers ascending, then the
others as they came. -/
def setOrder (items : List Value) : List Value :=
  let numbers := items.filterMap fun | int n => some n | _ => none
  let others := items.filter fun | int _ => false | _ => true
  (numbers.mergeSort (· ≤ ·)).map int ++ others

/-- The set of the given items. -/
def setOf (items : List Value) : Value :=
  set (setOrder (items.foldl (fun acc v => if acc.any (same v) then acc else acc ++ [v]) []))

/-- The value of a text key in a dictionary's entries. -/
def entry? (key : String) : List (Value × Value) → Option Value
  | [] => none
  | (text k, v) :: rest => if k == key then some v else entry? key rest
  | _ :: rest => entry? key rest

end RecordRules.Value
