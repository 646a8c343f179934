import RuleReview.Issue
import RuleReview.Language

/-! What a project may configure, with the values that hold where it does not. -/

namespace RuleReview

namespace Config

/-- The names of the sources that come with the library, in the order of their use. -/
def builtinSources : List String := ["core", "extended", "framework", "language:csharp", "owasp"]

/-- Which sources of rules are used: built-in ones, and files by name with their kinds. -/
structure Rules where
  sources : List String := builtinSources
  extra : List (String × String) := []
  extraKinds : List (String × Issue.Kind) := []
  deriving DecidableEq, Repr

/-- From which values on metrics are reported. -/
structure Thresholds where
  complexityHigh : Nat := 10
  complexityCritical : Nat := 15
  functionLength : Nat := 100
  nestingDepth : Nat := 6
  duplicationRatio : Rat := Decimal.nearest (1 / 10)
  commentRatio : Rat := Decimal.nearest (5 / 100)
  commentMinLines : Nat := 50
  deriving DecidableEq, Repr

structure Comments where
  maxComments : Nat := 50
  countHunkHeaders : Bool := false
  deriving DecidableEq, Repr

structure Linters where
  eslint : Bool := false
  flake8 : Bool := false
  deriving DecidableEq, Repr

end Config

/-- The configuration of a project and its directory. -/
structure Config where
  defaultLanguage : String := Language.default
  rules : Config.Rules := {}
  metrics : Config.Thresholds := {}
  comments : Config.Comments := {}
  linters : Config.Linters := {}
  project : Path := ⟨"", []⟩
  deriving DecidableEq, Repr

end RuleReview
