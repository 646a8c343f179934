import RuleReview.Console.Print
import RuleReview.Report

/-! Reports on a console: a panel, the reports with a line for each issue, and the figures of
all of them. Corrections may hold tags, and so may be refused. -/

namespace RuleReview.Report

open Console (Lines)

/-- Lines printed up to a text that is refused, and why it is. -/
structure Printed where
  lines : Lines := []
  refusal : Option Console.Markup.Error := none

namespace Printed

/-- Prints more, unless a text was refused before. -/
def add (p : Printed) (ls : Except Console.Markup.Error Lines) : Printed :=
  match p.refusal, ls with
  | some _, _ => p
  | none, .ok ls => { p with lines := p.lines ++ ls }
  | none, .error e => { p with refusal := some e }

def ofList (parts : List (Except Console.Markup.Error Lines)) : Printed := parts.foldl add {}

end Printed

def titleLine (r : Report) : String :=
  let frameworks := if r.analysis.frameworks.isEmpty then ""
    else " · " ++ ", ".intercalate r.analysis.frameworks
  s!"{r.path}  [{r.analysis.language}{frameworks}]"

def issueLine (i : Issue) : String :=
  s!"  {i.severity.sign} {i.severity.name}  ({i.line}:{i.column})  {i.message}  ["
    ++ Decimal.twoPlaces i.confidence ++ "]"

def issueParts (width : Nat) (i : Issue) : List (Except Console.Markup.Error Lines) :=
  .ok (Console.literal width (issueLine i)) ::
    (i.fix.filter (· != "")).toList.map fun fix => Console.marked width ("     → " ++ fix)

def reportParts (width : Nat) (r : Report) : List (Except Console.Markup.Error Lines) :=
  let issues := if r.analysis.issues.isEmpty then [.ok (Console.literal width "  No issues found.")]
    else r.analysis.issues.flatMap (issueParts width)
  .ok (Console.literal width r.titleLine) :: issues ++ [.ok (Console.gap width)]

/-- The line above and below the figures. -/
def separator : String := String.ofList (Console.dashes 60)

def figures (width : Nat) (rs : List Report) : Lines :=
  let all := allIssues rs
  [separator, s!"Issues: {all.length}", (Issue.breakdown all).line " ", separator].flatMap
    (Console.literal width)

/-- Reports, or only their figures, on a console of a width. -/
def terminal (width : Nat) (details : Bool) (rs : List Report) : Printed :=
  let head := Console.panel width s!"CodeSentry v{version} · quality & security analysis"
    s!"Analyzed {rs.length} file(s)"
  .ofList (.ok head :: (if details then rs.flatMap (reportParts width) else [])
    ++ [.ok (figures width rs)])

end RuleReview.Report
