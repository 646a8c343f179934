import RuleReview.Analyzer

/-! Analysis with everything that could stop it. Every issue is made from a draft, which is refused
where the issue would not be valid, and every ratio asks for a number of things that is not zero
and for a result that is not too large. -/

namespace RuleReview

namespace Issue

def draft (i : Issue) : Draft where
  issue := i
  severity := .known i.severity
  confidence := .real (.finite i.confidence)
  line := i.line
  column := i.column

def check (i : Issue) : Except Error Issue := create i.draft

end Issue

/-- The issues of a text, each of them checked as it is found. -/
def Rule.Collection.issues? (col : Collection) (language : String) (code : List Char) :
    Except Issue.Error (List Issue) := (col.issues language code).mapM Issue.check

namespace Metrics

def ratio? (things others : Nat) : Except Fault Rat :=
  if others = 0 then .error .dividedByZero
  else
    let x := Decimal.nearest ((things : Rat) / (others : Rat))
    if Decimal.isTooLarge x then .error .quotientTooLarge else .ok x

def average? (lengths : List Nat) : Except Fault Nat :=
  if lengths.isEmpty then .ok 0 else (ratio? (total lengths) lengths.length).map roundHalfUp

/-- The part of comment lines among lines, zero where there are no lines. -/
def commentRatio? (comments lines : Nat) : Except Fault Rat :=
  if lines = 0 then .ok 0 else ratio? comments lines

def ofCode? (code : List Char) : Except Fault Metrics := do
  let m := ofCode code
  let averageFunctionLength ←
    average? (bracedLengths (.ofList code) ++ blockLengths (Text.rows code))
  let commentRatio ← commentRatio? m.commentLines m.totalLines
  return { m with averageFunctionLength, commentRatio }

end Metrics

namespace Analyzer

/-- Why an analysis stops. -/
inductive Error
  | issue (e : Issue.Error)
  | fault (f : Fault)
  deriving DecidableEq, Repr

/-- The issues that a collection finds in a text, each of them checked as it is made, and whether
they are about security. -/
def findings? (language : String) (code : List Char) (c : Rule.Collection) :
    Except Error (Bool × List Issue) := do
  let issues ← (c.issues? language code).mapError Error.issue
  return (c.kind == .security, issues)

/-- The issues about the figures of a text, each of them checked as it is made. -/
def figureIssues? (t : Config.Thresholds) (m : Metrics) : Except Error (List Issue) := do
  let issues ← (m.figures.issues? t).mapError Error.fault
  (issues.mapM Issue.check).mapError .issue

/-- Analyzes a text, unless an issue is refused or there is no ratio of some figures. -/
def analyze? (a : Analyzer) (code : List Char) (hint path : Option String := none)
    (extra : List Issue := []) : Except Error Analysis := do
  let language := Language.resolve code hint path a.config.defaultLanguage
  let frameworks := Language.frameworks code path
  let applied := a.collectionsFor code language frameworks
  let found ← applied.mapM (findings? language code)
  let quality := (found.filter (·.1 == false)).flatMap (·.2)
  let security := (found.filter (·.1 == true)).flatMap (·.2)
  let metrics ← (Metrics.ofCode? code).mapError Error.fault
  let figures ← figureIssues? a.config.metrics metrics
  return {
    language, frameworks, metrics
    quality := Issue.merge [quality, figures, extra]
    security := Issue.merge [security]
    issues := Issue.merge [quality, figures, extra, security]
    rulesApplied := total (applied.map (·.ruleCount))
    collectionsApplied := applied.length }

end Analyzer

end RuleReview
