import RecordRules.Report

/-!
# Reports in Markdown

`Report.markdown` writes a report as a document: a summary, the counts by field and by rule with the
greatest first, and the failures with their messages.
-/

namespace RecordRules.Report

/-- A row of a table. -/
def tableRow (cells : List String) : String := "| " ++ " | ".intercalate cells ++ " |"

/-- A section with a table and an empty line after it. -/
def tableSection (title header rule : String) (rows : List (List String)) : List String :=
  ["## " ++ title, "", header, rule] ++ rows.map tableRow ++ [""]

/-- The section of counts, left out when there are none. -/
def countSection (title header rule : String) (counts : List (String × Nat)) : List String :=
  if counts.isEmpty then []
  else tableSection title header rule ((ranked counts).map fun (key, n) => [key, n.repr])

/-- The section of failures, numbered from one. -/
def failureSection (rows : List ReportRow) : List String :=
  if rows.isEmpty then ["**All records passed validation.**", ""]
  else
    tableSection "Failures" "| # | Record | Field | Rule | Message |"
      "|---|--------|-------|------|---------|"
      ((rows.zipIdx 1).map fun (row, number) =>
        [number.repr, row.index.repr, row.failure.field, row.failure.rule, row.message])

/-- The report as a document. -/
def markdown (r : Report) : String :=
  let title := if r.source = "" then "# Validation Report" else "# Validation Report: " ++ r.source
  "\n".intercalate <|
    [title, "", "**Generated:** " ++ r.generatedAt, ""] ++
    tableSection "Summary" "| Metric | Value |" "|--------|-------|" [
      ["Records Validated", r.total.repr],
      ["Invalid Records", r.invalid.repr],
      ["Failures", r.failureCount.repr],
      ["Pass Rate", r.passRate.percent]] ++
    countSection "Failures by Field" "| Field | Failures |" "|-------|----------|" r.byField ++
    countSection "Failures by Rule" "| Rule | Failures |" "|------|----------|" r.byRule ++
    failureSection r.rows

end RecordRules.Report
