import RecordRules.Message.Catalog
import RecordRules.Number.Binary64
import RecordRules.Result

/-!
# Reports

A report sums up the results of a batch of records: every failure with its message, in the order of
the records, how often each field and each rule failed, and the share of the records that are in
order.
-/

namespace RecordRules

/-- A failure in the record at an index of the batch, with its message. -/
structure ReportRow where
  index : Nat
  failure : Failure
  message : String
  deriving Inhabited

/-- The outcome of validating a batch of records. -/
structure Report where
  source : String
  total : Nat
  invalid : Nat
  rows : List ReportRow
  generatedAt : String
  deriving Inhabited

namespace Report

/-- The rows of one record. -/
def rowsOf (c : Catalog) (index : Nat) (r : Result) : Except RenderFault (List ReportRow) :=
  r.failures.mapM fun f => do return ⟨index, f, ← c.render f⟩

/-- The rows of records in order, the first of which has the given index. -/
def collectRows (c : Catalog) : Nat → List Result → Except RenderFault (List ReportRow)
  | _, [] => .ok []
  | index, r :: rest => do
    let rows ← rowsOf c index r
    return rows ++ (← collectRows c (index + 1) rest)

/-- The report on the results of a batch. -/
def ofResults (c : Catalog) (source generatedAt : String) (results : List Result) :
    Except RenderFault Report := do
  let rows ← collectRows c 0 results
  return {
    source, rows, generatedAt
    total := results.length
    invalid := results.countP (!·.isValid) }

/-- The number of failures. -/
def failureCount (r : Report) : Nat := r.rows.length

/-- Every record is in order. -/
def allValid (r : Report) : Bool := r.invalid == 0

/-- The share of the records that are in order; of an empty batch, all are. -/
def passRate (r : Report) : Binary64 :=
  if r.total = 0 then .ofInt 1 else .ofRatio false (r.total - r.invalid) r.total

/-- How often each key occurs, in the order of first occurrence. -/
def tally (keys : List String) : List (String × Nat) :=
  keys.foldl (fun counts key => Assoc.update key 0 (· + 1) counts) []

/-- How often each field failed. -/
def byField (r : Report) : List (String × Nat) := tally (r.rows.map (·.failure.field))

/-- How often each rule failed. -/
def byRule (r : Report) : List (String × Nat) := tally (r.rows.map (·.failure.rule))

/-- Counts with the greatest first; equal counts keep their order. -/
def ranked (counts : List (String × Nat)) : List (String × Nat) :=
  counts.mergeSort fun a b => b.2 ≤ a.2

end Report

end RecordRules
