import RuleReview.Issue
import RuleReview.Text.Search

/-! The texts of comments. The graver and then the surer issues come first. -/

namespace RuleReview.Review

def issueLine (i : Issue) : String :=
  s!"- {i.severity.sign} **{i.severity.name}** {i.message} "
    ++ s!"(confidence {Decimal.twoPlaces i.confidence})."
    ++ match i.fix.filter (· != "") with
      | some fix => " Fix: " ++ fix
      | none => ""

def maxIssues : Nat := 6

/-- The text of a comment about the issues of one place. -/
def commentBody (issues : List Issue) (marker : String) : String :=
  let ordered := Issue.prioritize issues
  let left := ordered.length - maxIssues
  "\n".intercalate (["**CodeSentry** found the following issue(s):"]
    ++ (ordered.take maxIssues).map issueLine
    ++ (if left = 0 then [] else [s!"- …and {left} more finding(s) on this line."])
    ++ ["", marker])

/-- Findings: issues, each with the path of its file. -/
abbrev Placed := List (String × Issue)

def orderPlaced (fs : Placed) : Placed := fs.mergeSort fun a b => Issue.mayPrecede a.2 b.2

/-- The row about a finding, in which a bar does not end a cell. -/
def summaryRow (f : String × Issue) : String :=
  let message := String.ofList (Text.replaceChar '|' ['\\', '|'] f.2.message.toList)
  s!"| {f.2.severity.name} | `{f.1}:{f.2.line}` | {message} |"

/-- The first items of a list; a negative number leaves out as many at the end. -/
def takeUpTo (limit : Int) (xs : List α) : List α :=
  if 0 ≤ limit then xs.take limit.toNat else xs.take (xs.length - limit.natAbs)

/-- The text of a comment about findings that have no place in a diff. -/
def summaryBody (fs : Placed) (marker : String) (limit : Int := 10) : String :=
  let counts := Issue.breakdown (fs.map (·.2))
  let left := (fs.length : Int) - limit
  "\n".intercalate (["## CodeSentry review", "",
      s!"Found **{fs.length}** issue(s) outside the changed lines: {counts.critical} critical, "
        ++ s!"{counts.high} high, {counts.medium} medium, {counts.low} low.",
      "", "| Severity | Location | Finding |", "|---|---|---|"]
    ++ (takeUpTo limit (orderPlaced fs)).map summaryRow
    ++ (if 0 < left then ["", s!"…and {left} more."] else [])
    ++ ["", marker])

/-- The text about a whole run. -/
def stepSummary (filesAnalyzed : Nat) (fs : Placed) (commentsPosted : Nat) : String :=
  "\n".intercalate ["## CodeSentry report", "",
    s!"- Files analyzed: **{filesAnalyzed}**", s!"- Findings: **{fs.length}**",
    "- By severity: " ++ (Issue.breakdown (fs.map (·.2))).line ", ",
    s!"- Inline comments posted: {commentsPosted}", ""] ++ "\n"

end RuleReview.Review
