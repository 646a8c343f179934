import RuleReview.Linter.Eslint
import RuleReview.Linter.Flake8
import RuleReview.Command
import RuleReview.Text.Blank

/-! Running the linters that are enabled. One that cannot be run, or whose output is not
read, has no findings, and the other is not affected. -/

namespace RuleReview.Linter

def all : List Linter := [eslint, flake8]

def read (l : Linter) (root : Path) (output : String) : Except Error Findings :=
  match l with
  | eslint => Eslint.read root output
  | flake8 => Flake8.read root output

def targets (l : Linter) (files : List String) : List String :=
  files.filter fun f => l.extensions.contains (Path.ofString f).extension

/-- Whether a cause for which an output is not read is no more than logged. -/
def isHandled : Fault → Bool
  | .infinityToInteger | .tooDeepJson _ => false
  | _ => true

/-- The findings of the output that a linter left behind. -/
def absorb (l : Linter) (root : Path) (r : Command.Result) : LogM Fault Findings := do
  if Text.isBlankText r.output then
    unless r.isOk do
      LogM.warn .linters (s!"{l.name} failed (exit {r.code}): " ++ Text.strip r.errors)
    return []
  match l.read root r.output with
  | .ok found =>
    LogM.info .linters (s!"{l.name}: {found.length} finding(s)")
    return found
  | .error .notList =>
    LogM.warn .linters (s!"{l.name} output could not be parsed: " ++ Error.notList.message)
    return []
  | .error (.fault f) =>
    unless isHandled f do throw f
    LogM.warnOf .linters (s!"{l.name} output could not be parsed") f
    return []

def runOne (runner : Command.Runner) (root : Path) (files : List String) (l : Linter) :
    LogM Fault Findings := do
  let files := l.targets files
  if files.isEmpty then return []
  match ← (Command.run runner (l.command files) false).attempt with
  | .ok r => l.absorb root r
  | .error (.fault f) => throw f
  | .error e =>
    LogM.warn .linters (s!"{l.name} could not run: " ++ e.message)
    return []

/-- The findings of linters, one after the other. -/
def runEach (runner : Command.Runner) (root : Path) (files : List String) :
    List Linter → LogM Fault Findings
  | [] => return []
  | l :: ls => do
    let found ← runOne runner root files l
    return found ++ (← runEach runner root files ls)

/-- The findings of the linters that are enabled, by file. -/
def run (runner : Command.Runner) (c : Config.Linters) (root : Path) (files : List String) :
    LogM Fault (List (String × List Issue)) := do
  return byFile (← runEach runner root files (all.filter (·.isEnabled c)))

end RuleReview.Linter
