import RuleReview.Fault
import RuleReview.Rule
import RuleReview.Text.Lines
import RuleReview.Text.Search
import RuleReview.Decimal.Shortest

/-! Applying rules to a text line by line. Every match becomes one issue, whose
confidence and impact follow from the rule and its category. -/

namespace RuleReview.Rule

/-- A match: its place, counted from one, its text, and how sure it is. -/
structure Match where
  line : Nat
  column : Nat
  text : String
  confidence : Rat
  deriving DecidableEq, Repr

/-- How sure a match is before anything is known about its rule. -/
def baseConfidence : Rat := Decimal.nearest (8 / 10)

def lineMatches (p : Pattern) (number : Nat) (t : Pattern.Line) : List Match :=
  ((p.spans t).filter fun s => s.1 != s.2).map fun s =>
    ⟨number, s.1 + 1, t.slice s.1 s.2, baseConfidence⟩

def withoutReturns (cs : List Char) : List Char := Text.dropEndWhile (· == '\r') cs

def codeLines (code : List Char) : List Pattern.Line :=
  (Text.rows code).map fun cs => .ofList (withoutReturns cs)

/-- The matches on lines, the first of which has the given number. -/
def matchesFrom (p : Pattern) : (number : Nat) → List Pattern.Line → List Match
  | _, [] => []
  | n, t :: ts => lineMatches p n t ++ matchesFrom p (n + 1) ts

/-- The matches of a pattern in a text, line by line. -/
def findMatches (p : Pattern) (code : List Char) : List Match := matchesFrom p 1 (codeLines code)

def bonus (subCategory : String) : Rat :=
  let s := Text.toLower subCategory
  if s == "security" then Decimal.nearest (2 / 10)
  else if s == "performance" then Decimal.nearest (1 / 10)
  else 0

/-- A number brought between the least and the greatest confidence. -/
def clampConfidence (x : Rat) : Rat :=
  if x < Issue.minConfidence then Issue.minConfidence
  else if Issue.maxConfidence < x then Issue.maxConfidence
  else x

/-- The confidence of an issue of a sub-category from a match, in two places. -/
def confidence (base : Rat) (subCategory : String) : Rat :=
  Decimal.roundTwo (clampConfidence (Decimal.nearest (base + bonus subCategory)))

/-- The confidence that follows from a given number, which need not be one that a match has. -/
def confidenceOf (base : Data) (subCategory : String) : Except Fault Rat :=
  match base with
  | .boolean b => .ok (confidence (if b then 1 else 0) subCategory)
  | .integer n => (Decimal.ofWhole? n).elim (.error .integerTooLarge) fun x =>
    .ok (confidence x subCategory)
  | .real (.infinity false) => .ok Issue.maxConfidence
  | .real x => .ok (x.toRat?.elim Issue.minConfidence (confidence · subCategory))
  | _ => .error .wrongKind

def knownImpacts : List (String × Issue.Impact) := [
  ("naming_conventions", .readability),
  ("function_complexity", .maintainability),
  ("code_duplication", .maintainability),
  ("error_handling", .reliability),
  ("performance", .performance),
  ("security", .security),
  ("maintainability", .maintainability),
  ("code_style", .readability),
  ("documentation", .maintainability),
  ("sql_injection", .security),
  ("xss", .security),
  ("command_injection", .security),
  ("insecure_crypto", .security),
  ("insecure_deserialization", .security),
  ("async_patterns", .reliability),
  ("resource_management", .reliability),
  ("debugging_leftovers", .readability),
  ("database_patterns", .performance),
  ("csharp_security_rules", .security),
  ("csharp_quality_rules", .maintainability),
  ("csharp_modern_features", .modernization),
  ("csharp_web_security", .security)]

/-- Whether a key is that of a numbered risk: a capital A, two digits, a low line. -/
def isNumberedRisk (key : String) : Bool :=
  match key.toList with
  | 'A' :: a :: b :: '_' :: _ => Text.isDecimal a && Text.isDecimal b
  | _ => false

def impactOf (key : String) : Issue.Impact :=
  match knownImpacts.lookup key with
  | some i => i
  | none => if isNumberedRisk key then .security else .general

def issueOf (source : String) (kind : Issue.Kind) (c : Category) (r : Rule) (m : Match) :
    Issue where
  source := source
  category := c.title
  severity := c.severity
  line := m.line
  column := m.column
  message := c.title ++ ": " ++ r.description
  confidence := confidence m.confidence r.subCategory
  subCategory := r.subCategory
  categoryKey := c.key
  impact := impactOf c.key
  kind := kind
  fix := r.fix
  sample := r.sample
  description := some r.description
  cwe := c.cwe

namespace Collection

/-- The issues of a category: rule by rule, those about the language only. -/
def issuesOfCategory (col : Collection) (language : String) (lines : List Pattern.Line)
    (c : Category) : List Issue :=
  (c.rules.filter fun r => r.scope.covers language).flatMap fun r =>
    (matchesFrom r.pattern 1 lines).map (issueOf col.name col.kind c r)

/-- The issues of a text: category by category, rule by rule, place by place. -/
def issues (col : Collection) (language : String) (code : List Char) : List Issue :=
  let lines := codeLines code
  col.walk.flatMap (col.issuesOfCategory language lines)

end Collection

end RuleReview.Rule
