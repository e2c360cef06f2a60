/-!
# Ordered associations

Lists of pairs in which every key has one place. `Assoc.put` changes the value of a key that is
there and adds a new key at the end; `Assoc.keys_put` says so for the keys.
-/

namespace RecordRules.Assoc

variable {α : Type u} {β : Type v} [DecidableEq α]

/-- Gives a key a value: a key that is there keeps its place, a new one goes to the end. -/
def put (key : α) (value : β) : List (α × β) → List (α × β)
  | [] => [(key, value)]
  | (k, v) :: rest => if k = key then (k, value) :: rest else (k, v) :: put key value rest

/-- Gives keys values in turn. -/
def putAll (entries : List (α × β)) (base : List (α × β)) : List (α × β) :=
  entries.foldl (fun acc (k, v) => put k v acc) base

/-- The association with the given entries, later ones overriding earlier ones. -/
def ofList (entries : List (α × β)) : List (α × β) := putAll entries []

/-- Changes the value of a key by a function, from a starting value for a new key. -/
def update (key : α) (start : β) (f : β → β) : List (α × β) → List (α × β)
  | [] => [(key, f start)]
  | (k, v) :: rest => if k = key then (k, f v) :: rest else (k, v) :: update key start f rest

/-- A key that is there keeps its place, and a new one comes last. -/
theorem keys_put (key : α) (value : β) (entries : List (α × β)) :
    (put key value entries).map (·.1) =
      if key ∈ entries.map (·.1) then entries.map (·.1) else entries.map (·.1) ++ [key] := by
  induction entries with
  | nil => simp [put]
  | cons e rest ih =>
    obtain ⟨k, v⟩ := e
    by_cases h : k = key
    · simp [put, h]
    · simp only [put, h, if_false, List.map_cons, ih, List.mem_cons, Ne.symm h, false_or]
      split <;> simp

end RecordRules.Assoc
