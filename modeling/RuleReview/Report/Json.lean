import RuleReview.Report
import RuleReview.Json.Writer

/-! Reports as JSON. One report is written bare; any other number of them stands in a list
of files. -/

namespace RuleReview.Report

def countKind (k : Issue.Kind) (is : List Issue) : Nat := is.countP (·.kind == k)

/-- An analysis: its numbers, its issues, and what it looked at. -/
def envelope (a : Analysis) : Members :=
  [("summary", .object [
      ("total_issues", count a.issues.length),
      ("quality_issues", count (countKind .quality a.issues)),
      ("security_issues", count (countKind .security a.issues)),
      ("by_severity", .object (breakdownMembers (Issue.breakdown a.issues)))]),
    ("issues", .list (a.issues.map fun i => .object (issueRecord i))),
    ("analysis_info", .object [
      ("language", .text a.language), ("rules_applied", count a.rulesApplied),
      ("engine_version", .text version)])]

def toData : List Report → Data
  | [r] => .object (envelope r.analysis)
  | rs => .object [
    ("tool", .object [("name", .text "CodeSentry"), ("version", .text version)]),
    ("files", .list (rs.map fun r => .object (("path", .text r.path) :: envelope r.analysis)))]

def json (rs : List Report) : String := Json.pretty (toData rs)

end RuleReview.Report
