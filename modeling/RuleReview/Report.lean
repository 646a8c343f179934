import RuleReview.Analyzer

/-! Reports: the analysis of a file under the name it is shown by. The members under which an
issue is written are its record; members that would hold nothing are left out. -/

namespace RuleReview

def version : String := "2.0.0"

/-- The analysis of a file, and its name or what stands for it. -/
structure Report where
  path : String
  analysis : Analysis

namespace Report

def allIssues (rs : List Report) : List Issue := rs.flatMap (·.analysis.issues)

/-! ### Records -/

abbrev Members := List (String × Data)

def count (n : Nat) : Data := .integer n

def nonEmpty? (s : Option String) : Option String := s.filter (· != "")

def fixMember (i : Issue) : Members :=
  match nonEmpty? i.fix with
  | some fix => [("fix", .text fix)]
  | none => []

def confidenceOf (i : Issue) : Data := .real (.finite i.confidence)

def qualityRecord (i : Issue) : Members :=
  [("line", count i.line), ("message", .text i.message), ("severity", .text i.severity.name),
    ("category", .text (if i.subCategory == "" then "general" else i.subCategory))]
  ++ fixMember i ++ [("confidence", confidenceOf i)]

def securityRecord (i : Issue) : Members :=
  [("category", .text i.category), ("line", count i.line), ("message", .text i.message),
    ("severity", .text i.severity.name),
    ("description", .text ((nonEmpty? i.description).getD i.message))]
  ++ fixMember i ++ [("confidence", confidenceOf i)]
  ++ if i.cwe.isEmpty then [] else [("cweMapping", .list (i.cwe.map .text))]

/-- The record of an issue of any kind, with its column, kind, source and impact. -/
def issueRecord (i : Issue) : Members :=
  (if i.kind == .security then securityRecord i else qualityRecord i) ++
    [("column", count i.column), ("type", .text i.kind.name), ("source", .text i.source),
      ("impact", .text i.impact.name)]

/-- The members that count issues of each severity. -/
def breakdownMembers (b : Issue.Breakdown) : Members :=
  [("critical", count b.critical), ("high", count b.high), ("medium", count b.medium),
    ("low", count b.low)]

end Report

end RuleReview
