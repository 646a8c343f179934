import RuleReview.CommandLine.Words
import RuleReview.Decimal.Integer
import RuleReview.Log.Line
import RuleReview.Severity
import RuleReview.Text.Numeral
import RuleReview.Workspace

/-! What a command line asks for. -/

namespace RuleReview.CommandLine

/-- What is to be reviewed, and where its comments go; without a place they are printed. -/
structure ReviewOrder where
  base : String
  head : String
  repository : String
  pull : Option Int
  token : String
  dry : Bool
  limit : Option Int
  deriving DecidableEq, Repr

/-- What is to be analyzed and by how many workers, how it is told, and from which severity on
issues make the run fail. -/
structure AnalysisOrder where
  path : String
  language : Option String
  format : String
  failOn : Option Severity
  workers : Nat
  deriving DecidableEq, Repr

inductive Task
  | analyze (t : AnalysisOrder)
  | rules (format : String)
  | detect (path format : String)
  | position (file : Path) (line : Int) (countHeaders : Option Bool)
  | review (r : ReviewOrder)
  | serve (host : String) (port : Int)
  deriving DecidableEq, Repr

/-- A task for the project in a directory, and how much is shown of what happens. -/
structure Order where
  verbosity : Log.Verbosity
  project : Path
  task : Task
  deriving DecidableEq, Repr

inductive Intent
  | help
  | version
  | order (o : Order)
  deriving DecidableEq, Repr

/-! ### Options -/

def helpForm : OptionForm := ⟨["--help"], false⟩

def commonForms : List OptionForm := [
  ⟨["--version"], false⟩, ⟨["--verbose", "-v"], false⟩, ⟨["--quiet", "-q"], false⟩, helpForm]

def projectForm : OptionForm := ⟨["--project"], true⟩

def formatForm : OptionForm := ⟨["--format"], true⟩

def commands : List (String × List OptionForm) := [
  ("analyze", [⟨["--language", "-l"], true⟩, formatForm, ⟨["--fail-on"], true⟩,
    ⟨["--workers"], true⟩, projectForm, helpForm]),
  ("rules", [formatForm, projectForm, helpForm]),
  ("detect", [formatForm, projectForm, helpForm]),
  ("diff-position", [⟨["--count-hunk-headers"], false⟩, ⟨["--no-count-hunk-headers"], false⟩,
    projectForm, helpForm]),
  ("review-pr", [⟨["--base"], true⟩, ⟨["--head"], true⟩, ⟨["--repository"], true⟩,
    ⟨["--pull-number"], true⟩, ⟨["--token"], true⟩, ⟨["--dry-run"], false⟩,
    ⟨["--max-comments"], true⟩, projectForm, helpForm]),
  ("serve", [⟨["--host"], true⟩, ⟨["--port"], true⟩, projectForm, helpForm])]

/-! ### Values -/

/-- Whether low lines stand alone between digits. -/
def areSpaced : List Char → Bool
  | [] => true
  | [c] => c != '_'
  | '_' :: '_' :: _ => false
  | _ :: cs => areSpaced cs

/-- Digits without an empty fraction, which is a point and zeros; none for any other fraction. -/
def withoutFraction? (cs : List Char) : Option (List Char) :=
  match cs.dropWhile (· != '.') with
  | [] => some cs
  | _ :: zeros =>
    if !zeros.isEmpty && zeros.all (· == '0') then some (cs.takeWhile (· != '.')) else none

/-- Digits without the zeros at their front and low lines among these. -/
def withoutLeadingZeros (cs : List Char) : List Char :=
  if cs.head? == some '0' then cs.dropWhile fun c => c == '0' || c == '_' else cs

/-- A whole number that is at least one, in digits of the first 128 characters. -/
def readPositive (s : String) : Option Int := do
  let cs := Decimal.withoutGaps s.toList
  let unsigned := if cs.head? == some '+' then cs.drop 1 else cs
  let cs := withoutLeadingZeros (← withoutFraction? unsigned)
  let ds := cs.filter (· != '_')
  guard (cs.head? != some '_' && areSpaced cs && !ds.isEmpty && ds.all Char.isDigit)
  guard (ds.length ≤ Decimal.maxDigits)
  return Text.valueIn 10 ds

def positive? (w : Words) (key : String) : Option (Option Int) :=
  match w.value? key with
  | none => some none
  | some s => (readPositive s).map some

def severity? (w : Words) (key : String) : Option (Option Severity) :=
  match w.value? key with
  | none => some none
  | some s =>
    match Severity.parse s with
    | .ok v => some (some v)
    | .error _ => none

def readProject (files : Workspace) (w : Words) : Option Path :=
  let p := (files.root.join (Path.ofString ((w.value? "--project").getD "."))).resolve
  if files.isDirectory p then some p else none

def readFile (files : Workspace) (s : String) : Option Path :=
  if files.isFile (Path.ofString s) then some (Path.ofString s) else none

/-- Which of two options comes last. -/
def readSwitch (w : Words) (on off : String) : Option Bool :=
  (w.options.reverse.find? fun (key, _) => key == on || key == off).map fun (key, _) => key == on

/-! ### Tasks -/

def formatOf (w : Words) : String := (w.value? "--format").getD "terminal"

def readReview (token : Option String) (w : Words) : Option ReviewOrder := do
  return {
    base := ← w.value? "--base"
    head := (w.value? "--head").getD "HEAD"
    repository := (w.value? "--repository").getD ""
    pull := ← positive? w "--pull-number"
    token := (w.value? "--token").getD (token.getD "")
    dry := w.has "--dry-run"
    limit := ← positive? w "--max-comments" }

/-- The number of a port at which a service can listen. -/
def readPort (w : Words) : Option Int := do
  let port := (← positive? w "--port").getD 3000
  guard (port ≤ 65535)
  return port

def readTask (files : Workspace) (token : Option String) (command : String) (w : Words) :
    Option Task :=
  match command, w.others with
  | "analyze", [path] => do
    let workers ← positive? w "--workers"
    let failOn ← severity? w "--fail-on"
    return .analyze ⟨path, w.value? "--language", formatOf w, failOn, (workers.getD 1).toNat⟩
  | "rules", [] => some (.rules (formatOf w))
  | "detect", [path] => some (.detect path (formatOf w))
  | "diff-position", [file, line] => do
    return .position (← readFile files file) (← readPositive line)
      (readSwitch w "--count-hunk-headers" "--no-count-hunk-headers")
  | "review-pr", [] => (readReview token w).map .review
  | "serve", [] => (readPort w).map (.serve ((w.value? "--host").getD "127.0.0.1"))
  | _, _ => none

def readCommand (files : Workspace) (token : Option String) (v : Log.Verbosity)
    (command : String) (words : List String) : Option Intent := do
  let w ← Words.read (← commands.lookup command) true words
  if w.has "--help" then return .help
  return .order ⟨v, ← readProject files w, ← readTask files token command w⟩

/-- What the first one of some options asks for at once. -/
def immediate? (w : Words) : Option Intent :=
  w.options.findSome? fun (key, _) =>
    if key == "--help" then some .help else if key == "--version" then some .version else none

/-- What a command line asks for, with a token at hand; none where it is not understood. -/
def readWords (files : Workspace) (token : Option String) (words : List String) :
    Option Intent := do
  let w ← Words.read commonForms false words
  match immediate? w, w.others with
  | some i, _ => return i
  | none, [] => none
  | none, command :: rest =>
    if w.has "--verbose" && w.has "--quiet" then none
    else readCommand files token (.ofFlags (w.has "--verbose") (w.has "--quiet")) command rest

end RuleReview.CommandLine
