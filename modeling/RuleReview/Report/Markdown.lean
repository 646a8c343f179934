import RuleReview.Report
import RuleReview.Text.Search

/-! Reports as a table with a row for each issue. In a cell, bars and backslashes are
marked by a backslash and line feeds become blanks. -/

namespace RuleReview.Report

/-- A text in a cell of a table, before blanks at its ends are taken away. -/
def escapeCell (cs : List Char) : List Char :=
  cs.flatMap fun c =>
    if c = '\\' then ['\\', '\\']
    else if c = '|' then ['\\', '|']
    else if c = '\n' then [' ']
    else [c]

def cell (s : String) : String := String.ofList (Text.trim (escapeCell s.toList))

def messageCell (i : Issue) : String :=
  match i.fix.filter (· != "") with
  | some fix =>
    cell i.message ++ "<br/><span style=\"opacity:0.75\">" ++ cell fix ++ "</span>"
  | none => cell i.message

def row (cells : List String) : String := "| " ++ " | ".intercalate cells ++ " |"

def issueRow (path : String) (i : Issue) : String :=
  row [cell path, toString i.line, i.severity.name, i.kind.name, cell i.category,
    Decimal.twoPlaces i.confidence, messageCell i]

def rows (rs : List Report) : List String :=
  rs.flatMap fun r => r.analysis.issues.map (issueRow r.path)

/-- The lines above the table. -/
def heading (rs : List Report) : List String :=
  let all := allIssues rs
  ["# CodeSentry report", "",
    s!"- Files analyzed: {rs.length}", s!"- Findings: {all.length}",
    "- By severity: " ++ (Issue.breakdown all).line ", ", "", "## Issues", ""]

def tableHead : List String :=
  ["| File | Line | Severity | Type | Category | Confidence | Message |",
    "| --- | ---: | --- | --- | --- | ---: | --- |"]

/-- The lines of the table, or what stands for an empty one. -/
def table (rs : List Report) : List String :=
  if (allIssues rs).isEmpty then ["No issues found."] else tableHead ++ rows rs

def markdown (rs : List Report) : String := "\n".intercalate (heading rs ++ table rs ++ [""])

end RuleReview.Report
