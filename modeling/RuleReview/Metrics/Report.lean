import RuleReview.Metrics
import RuleReview.Config
import RuleReview.Fault

/-! Issues about figures that pass their thresholds. They stand at the start of the text. -/

namespace RuleReview.Metrics

def reportConfidence : Rat := Decimal.nearest (9 / 10)

/-- The figures that thresholds apply to, which need not come from a text. -/
structure Figures where
  complexity : Int
  averageFunctionLength : Int
  nestingDepth : Int
  duplicatedLines : Int
  totalLines : Int
  commentRatio : Rat
  deriving DecidableEq, Repr

/-- The figures of a text that thresholds apply to. -/
def figures (m : Metrics) : Figures where
  complexity := m.complexity
  averageFunctionLength := m.averageFunctionLength
  nestingDepth := m.nestingDepth
  duplicatedLines := m.duplicatedLines
  totalLines := m.totalLines
  commentRatio := m.commentRatio

def issue (severity : Severity) (title message fix : String) : Issue where
  source := "metrics"
  category := title
  severity := severity
  line := 1
  column := 1
  message := message
  confidence := reportConfidence
  subCategory := "metrics"
  categoryKey := "metrics"
  impact := .maintainability
  kind := .quality
  fix := some fix

/-- Too many branches. -/
def complexityIssues (t : Config.Thresholds) (f : Figures) : List Issue :=
  if t.complexityCritical < f.complexity then
    [issue .critical "Extremely High Complexity"
      s!"Cyclomatic complexity of {f.complexity} is extremely high"
      "Break down into smaller functions immediately"]
  else if t.complexityHigh < f.complexity then
    [issue .high "High Complexity" s!"Cyclomatic complexity of {f.complexity} is high"
      "Consider refactoring into smaller functions"]
  else []

/-- Functions that are too long on average. -/
def lengthIssues (t : Config.Thresholds) (f : Figures) : List Issue :=
  if t.functionLength < f.averageFunctionLength then
    [issue .high "Very Long Functions" s!"Functions average {f.averageFunctionLength} lines"
      "Break large functions into smaller, focused functions"]
  else []

/-- Braces that go too deep. -/
def nestingIssues (t : Config.Thresholds) (f : Figures) : List Issue :=
  if t.nestingDepth < f.nestingDepth then
    [issue .high "Deep Nesting" s!"Maximum nesting depth of {f.nestingDepth}"
      "Use early returns and extract methods"]
  else []

def hundredths (ratio : Rat) : Rat := Decimal.nearest (Decimal.nearest (ratio * 100) + 1 / 2)

def percent (ratio : Rat) : Int := (hundredths ratio).num.tdiv (hundredths ratio).den

/-- Whether more lines than allowed repeat an earlier one. -/
def isDuplicated (t : Config.Thresholds) (f : Figures) : Prop :=
  Decimal.nearest (Decimal.nearest f.totalLines * t.duplicationRatio) < (f.duplicatedLines : Rat)

instance (t : Config.Thresholds) (f : Figures) : Decidable (isDuplicated t f) :=
  inferInstanceAs (Decidable (_ < _))

/-- The part of the lines that repeat an earlier one. -/
def duplicatedRatio (f : Figures) : Rat :=
  Decimal.nearest ((f.duplicatedLines : Rat) / (f.totalLines : Rat))

/-- Too many lines that repeat an earlier one. -/
def duplicationIssues (t : Config.Thresholds) (f : Figures) : List Issue :=
  if isDuplicated t f then
    [issue .medium "Code Duplication" s!"{percent (duplicatedRatio f)}% code duplication detected"
      "Extract common code into reusable functions"]
  else []

/-- Whether a long text has too few comment lines. -/
def lacksComments (t : Config.Thresholds) (f : Figures) : Prop :=
  f.commentRatio < t.commentRatio ∧ t.commentMinLines < f.totalLines

instance (t : Config.Thresholds) (f : Figures) : Decidable (lacksComments t f) :=
  inferInstanceAs (Decidable (_ ∧ _))

/-- Too few comment lines in a long text. -/
def commentIssues (t : Config.Thresholds) (f : Figures) : List Issue :=
  if lacksComments t f then
    [issue .low "Insufficient Comments" s!"Only {percent f.commentRatio}% of code is commented"
      "Add explanatory comments for complex logic"]
  else []

def Figures.issues (t : Config.Thresholds) (f : Figures) : List Issue :=
  complexityIssues t f ++ lengthIssues t f ++ nestingIssues t f ++ duplicationIssues t f
    ++ commentIssues t f

/-- Why figures that need not come from a text have no issues: there is no ratio among no
lines at all, and numbers may be too large for one. -/
def Figures.fault? (t : Config.Thresholds) (f : Figures) : Option Fault :=
  if Decimal.isTooLarge (Decimal.nearest f.totalLines) then some .integerTooLarge
  else if isDuplicated t f ∧ f.totalLines = 0 then some .dividedByZero
  else if isDuplicated t f ∧ Decimal.isTooLarge (duplicatedRatio f) then some .quotientTooLarge
  else if isDuplicated t f ∧ Decimal.isTooLarge (hundredths (duplicatedRatio f)) then
    some .infinityToInteger
  else if lacksComments t f ∧ Decimal.isTooLarge (hundredths f.commentRatio) then
    some .infinityToInteger
  else none

/-- All issues about figures that need not come from a text. -/
def Figures.issues? (t : Config.Thresholds) (f : Figures) : Except Fault (List Issue) :=
  match f.fault? t with
  | some e => .error e
  | none => .ok (f.issues t)

def issues (t : Config.Thresholds) (m : Metrics) : List Issue := m.figures.issues t

end RuleReview.Metrics
