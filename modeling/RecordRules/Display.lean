import RecordRules.Report

/-!
# Displays

What the program shows on a screen: lines of marked-up text and tables with styled columns. Marks
such as `[bold]` are part of the text, and a styled cell holds its text without marks. A report is
shown as a summary and a table of its failures, a list of rules as a table of templates. A value in a
table is written as far as there is room for what it holds.
-/

namespace RecordRules

/-- A cell of a table: marked-up text, or plain text in one style. -/
inductive Cell
  | markup (text : String)
  | styled (text style : String)
  deriving DecidableEq, Repr, Inhabited

/-- The side at which a column is aligned. -/
inductive Alignment
  | left
  | right
  deriving DecidableEq, Repr

/-- The word for an alignment. -/
def Alignment.word : Alignment → String
  | left => "left"
  | right => "right"

/-- A column of a table. -/
structure Column where
  header : String
  style : String
  alignment : Alignment
  unwrapped : Bool
  width : Option Nat
  maxWidth : Option Nat
  deriving DecidableEq, Repr

/-- A table with its title. -/
structure Table where
  title : String
  ruled : Bool
  columns : List Column
  rows : List (List Cell)
  deriving DecidableEq, Repr

/-- Something that is shown. -/
inductive Shown
  | blank
  | line (markup : String)
  | table (t : Table)
  deriving DecidableEq, Repr

/-- The text with marks in a cell. -/
def Cell.markup? : Cell → Option String
  | markup text => some text
  | styled .. => none

/-- The texts with marks in a table, in the order in which they are read: column by column, and the
title last. -/
def Table.markups (t : Table) : List String :=
  (t.columns.zipIdx.flatMap fun (column, index) =>
    column.header :: t.rows.filterMap fun cells => cells[index]?.bind Cell.markup?) ++ [t.title]

/-- The texts with marks in what is shown. -/
def Shown.markups : Shown → List String
  | blank => []
  | line text => [text]
  | table t => t.markups

namespace Column

/-- A column in no particular style. -/
def plain (header : String) : Column := ⟨header, "", .left, false, none, none⟩

end Column

/-- A styled cell; characters that would move the cursor are left out. -/
def Cell.ofPlain (text style : String) : Cell :=
  .styled (.ofList (text.toList.filter fun c => !([7, 8, 11, 12, 13].contains c.toNat))) style

namespace Report

/-- The figures of a report. -/
def summaryTable (r : Report) : Table where
  title := "Validation Summary"
  ruled := true
  columns := [{ Column.plain "Metric" with style := "bold" },
    { Column.plain "Value" with alignment := .right }]
  rows := [
    [.markup "Records Validated", .markup r.total.repr],
    [.markup "Invalid Records",
      .ofPlain r.invalid.repr (if r.invalid = 0 then "green" else "bold red")],
    [.markup "Failures", .markup r.failureCount.repr],
    [.markup "Pass Rate", .markup r.passRate.percent],
    [.markup "Status",
      if r.allValid then .ofPlain "VALID" "bold green" else .ofPlain "INVALID" "bold red"]]

/-- The counts by field, the greatest first. -/
def fieldTable (r : Report) : Table where
  title := "Failures by Field"
  ruled := true
  columns := [{ Column.plain "Field" with style := "bold cyan" },
    { Column.plain "Failures" with style := "red", alignment := .right }]
  rows := (ranked r.byField).map fun (field, n) => [.markup field, .markup n.repr]

/-- The summary of a report. -/
def showSummary (r : Report) : List Shown :=
  .table r.summaryTable :: if r.rows.isEmpty then [] else [.table r.fieldTable]

/-- The text of a value in a table, cut to thirty characters. -/
def valueText (room : Value.Room) (v : Value) : Except TooLong String :=
  if v.isNull then .ok "-"
  else do
    let text ← v.shownIn room 0
    return if 30 < text.length then .ofList (text.toList.take 27) ++ "..." else text

/-- The row of a failure with its number. -/
def failureCells (room : Value.Room) (row : ReportRow) (number : Nat) :
    Except TooLong (List Cell) := do
  return [.markup number.repr, .markup row.index.repr, .markup row.failure.field,
    .markup row.failure.rule, .ofPlain (← valueText room row.failure.value) "",
    .markup row.message]

/-- The columns of the table of failures. -/
def failureColumns : List Column := [
  { Column.plain "#" with style := "dim", alignment := .right, width := some 4 },
  { Column.plain "Record" with alignment := .right },
  { Column.plain "Field" with style := "bold cyan", unwrapped := true },
  { Column.plain "Rule" with style := "bold", unwrapped := true },
  { Column.plain "Value" with maxWidth := some 30 },
  { Column.plain "Message" with maxWidth := some 60 }]

/-- As many items as the limit says, or, under a negative limit, all but so many. -/
def limited {α : Type} (limit : Int) (items : List α) : List α :=
  if limit < 0 then items.take (items.length - limit.natAbs) else items.take limit.toNat

/-- The failures of a report. -/
def showFailures (limit : Int) (r : Report) (room : Value.Room := .unlimited) :
    Except TooLong (List Shown) :=
  if r.rows.isEmpty then .ok [.line "[dim]No validation failures found.[/dim]"]
  else do
    let shown := limited limit r.rows
    let rows ← (shown.zipIdx 1).mapM fun (row, number) => failureCells room row number
    let hidden := r.rows.length - shown.length
    return .table ⟨s!"Failures ({shown.length} shown)", true, failureColumns, rows⟩ ::
      if hidden = 0 then [] else [.line s!"[dim]{hidden} more failure(s) not shown[/dim]"]

/-- How many failures are shown unless told otherwise. -/
def defaultLimit : Int := 50

end Report

namespace Catalog

/-- The row of a rule; the default template is dimmed. -/
def ruleCells (c : Catalog) (rule : String) : Except TooLong (List Cell) :=
  match c.templates.lookup rule with
  | some template => .ok [.markup rule, .markup template]
  | none => do return [.markup rule, .ofPlain (← c.default.plain) "dim"]

/-- The templates of rules. -/
def showRules (c : Catalog) (rules : List String) : Except TooLong (List Shown) := do
  let locale ← c.locale.plain
  let rows ← rules.mapM c.ruleCells
  return [.table ⟨s!"Registered Rules ({locale})", false,
      [{ Column.plain "Rule" with style := "bold cyan", unwrapped := true },
        Column.plain "Message Template"], rows⟩,
    .line s!"\n[bold]{rules.length}[/bold] rules registered"]

end Catalog

end RecordRules
