import RecordRules.Csv.Rows
import RecordRules.Value

/-!
# Tables of comma-separated texts

The first row names the columns. A column without a name is named after its position, and a name
that occurs again is numbered. When the rows are longer than the row of names, the names belong to
the last cells. `Csv.records` reads every other row as a record of texts.
-/

namespace RecordRules.Csv

/-- The name of a column that has none. -/
def positionName (index : Nat) : String := s!"Unnamed: {index}"

/-- The name with the least number from `n` on that is not taken; `fuel` bounds the search. -/
def freeName (taken : List String) (name : String) : (fuel n : Nat) → String × Nat
  | 0, n => (s!"{name}.{n}", n)
  | fuel + 1, n =>
    let candidate := s!"{name}.{n}"
    if candidate ∈ taken then freeName taken name fuel (n + 1) else (candidate, n)

/-- Names being made different: the names as they stand, and how often each has been given. -/
structure Naming where
  names : List String
  counts : List (String × Nat)

/-- Makes the name at an index different from those before it. -/
def Naming.settle (s : Naming) (index : Nat) : Naming :=
  let name := s.names.getD index ""
  match (s.counts.lookup name).getD 0 with
  | 0 => { s with counts := (name, 1) :: s.counts }
  | n + 1 =>
    let (free, m) := freeName s.names name s.names.length (n + 1)
    ⟨s.names.set index free, (free, 1) :: (name, m + 1) :: s.counts⟩

/-- The names of the columns: those that are given are settled before those made from positions. -/
def columnNames (header : List String) : List String :=
  let named := header.zipIdx.filter fun (name, _) => name != ""
  let unnamed := header.zipIdx.filter fun (name, _) => name == ""
  let filled := header.zipIdx.map fun (name, index) =>
    if name = "" then positionName index else name
  let start : Naming := ⟨filled, []⟩
  ((named ++ unnamed).foldl (fun s (_, index) => Naming.settle s index) start).names

/-- The records of a text. -/
def records (text : List Char) : Except Fault (List Record) := do
  match ← rows text with
  | [] => throw .noColumns
  | header :: body =>
    let names := columnNames header
    let surplus := ((body.head?.map List.length).getD 0) - header.length
    return body.map fun row => names.zip ((row.drop surplus).map .text)

end RecordRules.Csv
