import RuleReview.Command
import RuleReview.Text.Lines
import RuleReview.Text.Blank

/-! What is asked of the version control system. -/

namespace RuleReview.Git

open Command (Runner Error)

/-- A failed command as a failure of the version control system, which always has words. -/
def errorOf (args : List String) : Error → Error
  | .failed message result =>
    .git (if message == "" then "git command failed: " ++ " ".intercalate args else message) result
  | e => e

/-- The output of a command of the version control system, given without its name. -/
def output (runner : Runner) (args : List String) : LogM Error String :=
  ((Command.run runner ("git" :: args)).mapError (errorOf args)).map (·.output)

/-- The range of commits from the point where two of them parted. -/
def range (base head : String) : String := base ++ "..." ++ head

/-- The files added or changed between two commits. -/
def changedFiles (runner : Runner) (base head : String) : LogM Error (List String) := do
  let out ← output runner ["diff", "--name-only", "--diff-filter=AM", range base head]
  return ((Text.lines out).map Text.strip).filter (· != "")

def fileDiff (runner : Runner) (base head path : String) : LogM Error String :=
  output runner ["diff", "--no-color", range base head, "--", path]

def preferredRemote? (remotes : List String) : Option String :=
  if remotes.contains "origin" then some "origin" else remotes.head?

/-- Fetches a commit that is not at hand, as far as that can be done. -/
def ensureCommit (runner : Runner) (commit : String) : LogM Error Unit := do
  match ← (output runner ["cat-file", "-e", commit ++ "^\x7bcommit\x7d"]).attempt with
  | .ok _ => return
  | .error (.fault f) => throw (.fault f)
  | .error _ => pure ()
  match ← (output runner ["remote"]).attempt with
  | .error (.fault f) => throw (.fault f)
  | .error _ => return
  | .ok out =>
    let remotes := (Text.words out.toList).map String.ofList
    let some remote := preferredRemote? remotes | return
    match ← (output runner ["fetch", "--no-tags", "--depth=1", remote, commit]).attempt with
    | .ok _ => return
    | .error (.fault f) => throw (.fault f)
    | .error e => LogM.warn .review (s!"could not fetch {commit}: {e.message}")

end RuleReview.Git
