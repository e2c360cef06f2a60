import RecordRules.Engine
import RecordRules.Value.Equality

/-!
# Frames

A frame is a table by columns. A column of numbers that has gaps, or numbers with a fraction, holds
double precision numbers throughout; a column of anything else keeps its cells. `Frame.records` reads
a frame row by row, with null for the cells that hold no value.
-/

namespace RecordRules

/-- Columns by name. -/
structure Frame where
  columns : List (String × List Value)
  deriving Inhabited

/-- Columns of different lengths make no frame. -/
inductive FrameError
  | unequalLengths
  deriving DecidableEq, Repr

/-- The wording of an error. -/
def FrameError.message : FrameError → String
  | unequalLengths => "All arrays must be of the same length"

namespace Frame

/-- What the cells of a column have been so far: gaps, "not a number", numbers with a fraction,
negative integers and integers beyond the signed 64-bit range. -/
structure Traits where
  gap : Bool
  notNumber : Bool
  fraction : Bool
  integer : Bool
  negative : Bool
  large : Bool

/-- An integer takes part in a column of integers: it fits 64 bits, and the column does not need
both a sign and the unsigned range. -/
def Traits.admit? (t : Traits) (n : Int) : Option Traits :=
  if t.gap then some { t with integer := true }
  else
    let negative := t.negative || n < 0
    let large := t.large || 0x8000000000000000 ≤ n
    if (negative && large) || n < -0x8000000000000000 || 0x10000000000000000 ≤ n then none
    else some { t with integer := true, negative, large }

/-- The traits of a column of numbers and gaps; other columns have none. -/
def traits? : List Value → Traits → Option Traits
  | [], t => some t
  | .null :: rest, t => traits? rest { t with gap := true }
  | .float .nan :: rest, t => traits? rest { t with notNumber := true }
  | .float _ :: rest, t => traits? rest { t with fraction := true }
  | .int n :: rest, t => (t.admit? n).bind (traits? rest)
  | _ :: _, _ => none

/-- The double precision number of a cell; gaps are "not a number". -/
def toFloat : Value → Value
  | .int n => .float (.ofInt n)
  | .null => .float .nan
  | v => v

/-- The cells of a column as the frame keeps them. -/
def columnCells (cells : List Value) : List Value :=
  match traits? cells ⟨false, false, false, false, false, false⟩ with
  | none => cells
  | some t =>
    if t.fraction || t.notNumber || (t.integer && t.gap) then cells.map toFloat else cells

/-- The frame with the given columns. With `asGiven` cells are kept as they are. -/
def ofColumns (asGiven : Bool) (columns : List (String × List Value)) : Except FrameError Frame :=
  let columns := Assoc.ofList columns
  let lengths := columns.map (·.2.length)
  if lengths.any (lengths.head? != some ·) then .error .unequalLengths
  else .ok ⟨if asGiven then columns else columns.map fun (name, cells) => (name, columnCells cells)⟩

/-- A cell that holds no value. -/
def isMissing : Value → Bool
  | .null | .float .nan => true
  | .decimal d => !d.isFinite && !d.sameNumber d
  | _ => false

/-- The number of rows. -/
def height (f : Frame) : Nat := (f.columns.head?.map (·.2.length)).getD 0

/-- The rows as records. -/
def records (f : Frame) : List Record :=
  (List.range f.height).map fun row =>
    f.columns.map fun (name, cells) =>
      let cell := cells.getD row .null
      (name, if isMissing cell then .null else cell)

end Frame

/-- Evaluates every row of a frame. The declarations are read first, so that a malformed one is found
in a frame without rows too, and the rule set is evaluated as declarations of its invocations. -/
def Registry.evaluateFrame (r : Registry Check) (f : Frame) (declarations : Declarations) :
    Except EvaluationError (List Result) := do
  let rules ← (parseRuleset declarations).mapError .ruleset
  f.records.mapM (r.evaluate · rules.declarations)

end RecordRules
