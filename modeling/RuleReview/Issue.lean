import RuleReview.Severity

/-! Findings of an analysis. A draft is checked before it becomes an issue: its severity
has to be known, its confidence lie between 0.30 and 0.95, and its place count from one.
Where lists of issues are merged, of those with the same line and message the first one stays,
and the graver and then the surer ones come first. -/

namespace RuleReview

namespace Issue

inductive Kind
  | quality
  | security
  | other (name : String)
  deriving DecidableEq, Repr

def Kind.name : Kind → String
  | .quality => "quality"
  | .security => "security"
  | .other n => n

def Kind.ofName (n : String) : Kind :=
  if n == "quality" then .quality else if n == "security" then .security else .other n

inductive Impact
  | readability
  | maintainability
  | reliability
  | performance
  | security
  | modernization
  | general
  | other (name : String)
  deriving DecidableEq, Repr

def Impact.all : List Impact :=
  [.readability, .maintainability, .reliability, .performance, .security, .modernization, .general]

def Impact.name : Impact → String
  | .readability => "readability"
  | .maintainability => "maintainability"
  | .reliability => "reliability"
  | .performance => "performance"
  | .security => "security"
  | .modernization => "modernization"
  | .general => "general"
  | .other n => n

def Impact.ofName (n : String) : Impact := (all.find? (·.name == n)).getD (.other n)

def minConfidence : Rat := Decimal.nearest (30 / 100)

def maxConfidence : Rat := Decimal.nearest (95 / 100)

end Issue

/-- A finding. Lines and columns count from one. -/
structure Issue where
  source : String
  category : String
  severity : Severity
  line : Nat
  column : Nat
  message : String
  confidence : Rat
  subCategory : String := "general"
  categoryKey : String := ""
  impact : Issue.Impact := .general
  kind : Issue.Kind := .quality
  fix : Option String := none
  sample : Option String := none
  description : Option String := none
  cwe : List String := []
  deriving DecidableEq, Repr

namespace Issue

/-- What every issue satisfies. -/
structure Valid (i : Issue) : Prop where
  line_pos : 1 ≤ i.line
  column_pos : 1 ≤ i.column
  least : minConfidence ≤ i.confidence
  greatest : i.confidence ≤ maxConfidence

inductive Level
  | known (s : Severity)
  | raw (d : Data)

/-- An issue before it is checked: any numbers may stand for its place and confidence. -/
structure Draft where
  issue : Issue
  severity : Level
  confidence : Data
  line : Int
  column : Int

/-- Why a draft is refused. -/
inductive Error
  | severity (shown : String)
  | confidence (shown : String)
  | location (line column : Int)
  | notANumber
  deriving DecidableEq, Repr

def Error.message : Error → String
  | severity shown => "Issue severity must be a Severity, got " ++ shown
  | confidence shown =>
    "Issue confidence " ++ shown ++ " is outside [" ++ Decimal.text minConfidence ++ ", "
      ++ Decimal.text maxConfidence ++ "]"
  | location line column =>
    s!"Issue location must be 1-based, got line={line} column={column}"
  | notANumber => ""

/-- The value of a confidence, with nothing for an infinite one or for none. -/
def confidenceOf : Data → Except Error (Option Rat)
  | .integer n => .ok (some n)
  | .boolean b => .ok (some (if b then 1 else 0))
  | .real x => .ok x.toRat?
  | _ => .error .notANumber

/-- The issue of a draft. Severity is looked at first, then confidence, then the place. -/
def create (d : Draft) : Except Error Issue := do
  let severity ← match d.severity with
    | .known s => pure s
    | .raw v => throw (.severity v.shown)
  let some confidence ← confidenceOf d.confidence | throw (.confidence d.confidence.shown)
  if confidence < minConfidence ∨ maxConfidence < confidence then
    throw (.confidence d.confidence.shown)
  if d.line < 1 ∨ d.column < 1 then throw (.location d.line d.column)
  return { d.issue with
    severity, confidence, line := d.line.toNat, column := d.column.toNat }

/-- Numbers of issues of each severity. -/
structure Breakdown where
  critical : Nat := 0
  high : Nat := 0
  medium : Nat := 0
  low : Nat := 0
  deriving DecidableEq, Repr

def countOf (s : Severity) (issues : List Issue) : Nat := issues.countP (·.severity == s)

def breakdown (issues : List Issue) : Breakdown :=
  ⟨countOf .critical issues, countOf .high issues, countOf .medium issues, countOf .low issues⟩

def Breakdown.line (b : Breakdown) (gap : String) : String :=
  gap.intercalate [s!"critical={b.critical}", s!"high={b.high}", s!"medium={b.medium}",
    s!"low={b.low}"]

def atOrAbove (threshold : Severity) (issues : List Issue) : List Issue :=
  issues.filter fun i => threshold.rank ≤ i.severity.rank

/-! ### Merging -/

/-- What makes two issues the same. -/
abbrev Key := Nat × String

def key (i : Issue) : Key := (i.line, i.message)

/-- The issues whose key has not been seen, each key once. -/
def dropSeen (seen : List Key) : List Issue → List Issue
  | [] => []
  | i :: is => if i.key ∈ seen then dropSeen seen is else i :: dropSeen (i.key :: seen) is

def deduplicate (issues : List Issue) : List Issue := dropSeen [] issues

/-- Whether an issue may come before another: it is graver, or as grave and as sure. -/
def mayPrecede (a b : Issue) : Bool :=
  b.severity.rank < a.severity.rank
    || (a.severity.rank == b.severity.rank && b.confidence ≤ a.confidence)

/-- The graver issues first and of those the surer ones; equals keep their order. -/
def prioritize (issues : List Issue) : List Issue := issues.mergeSort mayPrecede

def merge (lists : List (List Issue)) : List Issue := prioritize (deduplicate lists.flatten)

end Issue

end RuleReview
