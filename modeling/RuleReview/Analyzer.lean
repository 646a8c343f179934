import RuleReview.Rule.Source
import RuleReview.Rule.Match
import RuleReview.Language.Detect
import RuleReview.Metrics.Report

/-! Analysis of a text: its language and frameworks, the collections that apply, and the
merged issues of rules, figures and other tools. -/

namespace RuleReview

/-- A configuration with the collections loaded for it. -/
structure Analyzer where
  config : Config
  collections : List Rule.Collection

structure Analysis where
  language : String
  frameworks : List String
  metrics : Metrics
  quality : List Issue
  security : List Issue
  issues : List Issue
  rulesApplied : Nat
  collectionsApplied : Nat

namespace Analyzer

/-- The key of the category about databases, which applies to texts that use one. -/
def databaseKey : String := "database_patterns"

/-- The categories that a collection about frameworks contributes. -/
def frameworkKeys (code : List Char) (frameworks : List String) : List String :=
  frameworks ++ if Language.usesDatabase code then [databaseKey] else []

/-- Whether a collection about a language applies: to the language itself, and where a
framework of the language shows. -/
def appliesToLanguage (about language : String) (frameworks : List String) : Bool :=
  about == language || frameworks.any fun f => Text.startsWith f (about ++ "-")

def select (code : List Char) (language : String) (frameworks : List String)
    (c : Rule.Collection) : Option Rule.Collection :=
  let given (c : Rule.Collection) : Option Rule.Collection := if c.isEmpty then none else some c
  if c.aboutFrameworks then given (c.restrict (frameworkKeys code frameworks))
  else match c.language with
    | some about => if appliesToLanguage about language frameworks then given c else none
    | none => given c

/-- The collections that apply, in the order in which they were loaded. -/
def collectionsFor (a : Analyzer) (code : List Char) (language : String)
    (frameworks : List String) : List Rule.Collection :=
  a.collections.filterMap (select code language frameworks)

def ruleIssues (security : Bool) (language : String) (code : List Char)
    (cs : List Rule.Collection) : List Issue :=
  (cs.filter fun c => (c.kind == .security) == security).flatMap fun c => c.issues language code

/-- Analyzes a text. Issues of other tools may be handed in. -/
def analyze (a : Analyzer) (code : List Char) (hint path : Option String := none)
    (extra : List Issue := []) : Analysis :=
  let language := Language.resolve code hint path a.config.defaultLanguage
  let frameworks := Language.frameworks code path
  let applied := a.collectionsFor code language frameworks
  let quality := ruleIssues false language code applied
  let security := ruleIssues true language code applied
  let metrics := Metrics.ofCode code
  let figures := Metrics.issues a.config.metrics metrics
  { language, frameworks, metrics
    quality := Issue.merge [quality, figures, extra]
    security := Issue.merge [security]
    issues := Issue.merge [quality, figures, extra, security]
    rulesApplied := total (applied.map (·.ruleCount))
    collectionsApplied := applied.length }

end Analyzer

def Analysis.entry (r : Analysis) : Log.Entry where
  level := .debug
  origin := .analysis
  text := s!"analyzed {r.metrics.totalLines} line(s) as {r.language} (frameworks: "
    ++ (if r.frameworks.isEmpty then "none" else ", ".intercalate r.frameworks)
    ++ s!") with {r.collectionsApplied} collection(s)"

namespace Analyzer

def build (w : Workspace) (config : Config) : LogM Fault Analyzer := do
  return ⟨config, ← Rule.Source.loadAll w (Rule.Source.ofConfig config)⟩

/-- An analyzer with its collections loaded anew. -/
def reload (w : Workspace) (a : Analyzer) : LogM Fault Analyzer := build w a.config

end Analyzer

end RuleReview
