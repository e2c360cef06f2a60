import RecordRules.Text.Newline

/-!
# Rows of comma-separated texts

A text of comma-separated values is a list of rows, and a row a list of cells. A cell that starts with
a quotation mark runs to the next single one, and a doubled mark inside it stands for one mark; marks
elsewhere are ordinary characters. Lines that are empty or blank are skipped. Every row after the
first must have the length of the row before it: a shorter one is filled up with empty cells, and a
longer one is a fault from the third row on. A byte order mark before the first row is dropped.
-/

namespace RecordRules.Csv

/-- What is wrong with a text of comma-separated values: it has no columns, a row is too long, or a
quotation mark is left open; lines are counted in ends of rows. -/
inductive Fault
  | noColumns
  | tooManyCells (expected line found : Nat)
  | openQuote (line : Nat)
  deriving DecidableEq, Repr

/-- The wording of a fault. -/
def Fault.message : Fault → String
  | noColumns => "No columns to parse from file"
  | tooManyCells expected line found =>
    s!"Error tokenizing data. C error: Expected {expected} fields in line {line}, saw {found}\n"
  | openQuote line => s!"Error tokenizing data. C error: EOF inside string starting at row {line}"

/-- Where the reader stands: before a row, behind blanks at its start, behind a carriage return,
before a cell, in a cell without quotation marks, in one with them, or behind such a mark. -/
inductive Place
  | rowStart
  | blankStart
  | afterReturn
  | cellStart
  | plain
  | quoted
  | afterQuote
  deriving DecidableEq, Repr

/-- The state of the reader. The characters of the cell, the cells of the row and the rows are kept
in reverse; `line` counts the lines that have ended. -/
structure Scan where
  place : Place
  cell : List Char
  cells : List String
  rows : List (List String)
  line : Nat

namespace Scan

/-- The state at the start. -/
def start : Scan := ⟨.rowStart, [], [], [], 0⟩

/-- Adds a character to the cell. -/
def push (s : Scan) (c : Char) (place : Place) : Scan := { s with place, cell := c :: s.cell }

/-- Ends the cell; a null character hides what follows it. -/
def endCell (s : Scan) : Scan :=
  { s with
    place := .cellStart
    cell := []
    cells := .ofList (s.cell.reverse.takeWhile (·.toNat ≠ 0)) :: s.cells }

/-- Ends the row. -/
def endRow (s : Scan) (place : Place) : Except Fault Scan :=
  let row := s.cells.reverse
  let done (row : List String) : Scan := ⟨place, [], [], row :: s.rows, s.line + 1⟩
  match s.rows with
  | [] => .ok (done row)
  | previous :: earlier =>
    if earlier ≠ [] ∧ previous.length < row.length then
      .error (.tooManyCells previous.length (s.line + 1) row.length)
    else .ok (done (row ++ List.replicate (previous.length - row.length) ""))

/-- Reads a character that may end the cell or the row; any other is added to the cell. -/
def inCell (s : Scan) (c : Char) : Except Fault Scan :=
  if c = '\n' then s.endCell.endRow .rowStart
  else if c = '\r' then s.endCell.endRow .afterReturn
  else if c = ',' then .ok s.endCell
  else .ok (s.push c .plain)

/-- Reads the first character of a cell. -/
def atCellStart (s : Scan) (c : Char) : Except Fault Scan :=
  if c = '"' then .ok { s with place := .quoted } else s.inCell c

/-- Reads the first character of a row. -/
def atRowStart (s : Scan) (c : Char) : Except Fault Scan :=
  if c = '\n' then .ok { s with place := .rowStart, line := s.line + 1 }
  else if c = '\r' then .ok { s with place := .afterReturn, line := s.line + 1 }
  else if c = ' ' ∨ c = '\t' then .ok (s.push c .blankStart)
  else s.atCellStart c

/-- Reads a character behind blanks at the start of a row. -/
def atBlankStart (s : Scan) (c : Char) : Except Fault Scan :=
  if c = '\n' then .ok { s with place := .rowStart, cell := [], line := s.line + 1 }
  else if c = '\r' then .ok { s with place := .afterReturn, cell := [], line := s.line + 1 }
  else if c = ' ' ∨ c = '\t' then .ok (s.push c .blankStart)
  else s.inCell c

/-- Reads one character. -/
def step (s : Scan) (c : Char) : Except Fault Scan :=
  match s.place with
  | .rowStart => s.atRowStart c
  | .blankStart => s.atBlankStart c
  | .afterReturn => if c = '\n' then .ok { s with place := .rowStart } else s.atRowStart c
  | .cellStart => s.atCellStart c
  | .plain => s.inCell c
  | .quoted => .ok (if c = '"' then { s with place := .afterQuote } else s.push c .quoted)
  | .afterQuote => if c = '"' then .ok (s.push c .quoted) else s.inCell c

/-- Ends the text. -/
def finish (s : Scan) : Except Fault Scan :=
  match s.place with
  | .rowStart | .blankStart | .afterReturn => .ok s
  | .quoted => .error (.openQuote s.line)
  | .cellStart | .plain | .afterQuote => s.endCell.endRow .rowStart

end Scan

/-- A text without the byte order mark at its start. -/
def withoutMark : List Char → List Char
  | '\ufeff' :: rest => rest
  | s => s

/-- The rows of a text. -/
def rows (text : List Char) : Except Fault (List (List String)) := do
  let scanned ← (withoutMark text).foldlM Scan.step Scan.start
  let finished ← scanned.finish
  return finished.rows.reverse

end RecordRules.Csv
