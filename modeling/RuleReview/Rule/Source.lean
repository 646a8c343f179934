import RuleReview.Config
import RuleReview.Workspace
import RuleReview.Rule.Load
import RuleReview.Rule.Builtin.Core
import RuleReview.Rule.Builtin.Extended
import RuleReview.Rule.Builtin.Frameworks
import RuleReview.Rule.Builtin.CSharp
import RuleReview.Rule.Builtin.Owasp
import RuleReview.Total

/-! Sources of rules: data that come with the library, and files. A source that cannot be
used gives an empty collection and a warning, and the others are not affected. -/

namespace RuleReview.Rule

inductive Location
  | builtin (data : Data)
  | file (path : Path)

/-- A source of rules and what its collection is about. -/
structure Source where
  name : String
  location : Location
  kind : Issue.Kind := .quality
  language : Option String := none
  aboutFrameworks : Bool := false

namespace Source

/-- The sources that come with the library. -/
def builtin : List Source := [
  { name := "core", location := .builtin Builtin.core },
  { name := "extended", location := .builtin Builtin.extended },
  { name := "framework", location := .builtin Builtin.frameworks, aboutFrameworks := true },
  { name := "language:csharp", location := .builtin Builtin.csharp, language := some "csharp" },
  { name := "owasp", location := .builtin Builtin.owasp, kind := .security }]

/-- The sources of a configuration: the built-in ones that are enabled, then the files. -/
def ofConfig (c : Config) : List Source :=
  (builtin.filter fun s => c.rules.sources.contains s.name) ++
    c.rules.extra.map fun (name, path) =>
      { name, location := .file (c.project.join (Path.ofString path))
        kind := (c.rules.extraKinds.lookup name).getD .quality }

def collection (s : Source) (categories : List Category) : Collection :=
  { name := s.name, kind := s.kind, categories, language := s.language
    aboutFrameworks := s.aboutFrameworks }

/-- The empty collection of a source after a warning. -/
def givenUp (s : Source) (what : String) (cause : Option Fault) : LogM Fault Collection := do
  LogM.warn .rules (s!"rule source {Text.quoted s.name} " ++ what) cause
  return s.collection []

def ofData (s : Source) (d : Data) : LogM Fault Collection := do
  match ← (readSource maxLevels s.name d).attempt with
  | .ok categories => return s.collection categories
  | .error (.source e) => s.givenUp ("is malformed: " ++ e.message) none
  | .error (.fault f) => throw f

/-- Whether a cause concerns a file that cannot be opened or its encoding. -/
def isUnreadable : Fault → Bool
  | .fileMissing | .isDirectory | .notDirectory | .nameTooLong | .undecodable => true
  | _ => false

def load (w : Workspace) (s : Source) : LogM Fault Collection :=
  match s.location with
  | .builtin d => s.ofData d
  | .file path =>
    match w.readText path with
    | .error f => if isUnreadable f then s.givenUp "could not be read" (some f) else throw f
    | .ok text =>
      match Json.read text with
      | .ok d => s.ofData d
      | .error .malformed => s.givenUp "is not valid JSON" (some .malformedJson)
      | .error e => throw (.ofJson e)

def loadEach (w : Workspace) : List Source → LogM Fault (List Collection)
  | [] => return []
  | s :: ss => do
    let c ← s.load w
    return c :: (← loadEach w ss)

def logCounts (cs : List Collection) : LogM Fault Unit := do
  for c in cs do LogM.info .rules (s!"{c.name}: {c.ruleCount} rule(s)")
  LogM.info .rules (s!"total: {total (cs.map (·.ruleCount))} rule(s)")

/-- The collections of sources, with their numbers of rules logged. -/
def loadAll (w : Workspace) (ss : List Source) : LogM Fault (List Collection) := do
  let cs ← loadEach w ss
  logCounts cs
  return cs

end Source

end RuleReview.Rule
