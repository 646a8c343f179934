import RuleReview.Log

/-! Commands of other programs. Nothing here starts a program: a runner answers command
lines, and the journal keeps the command lines it was asked. -/

namespace RuleReview.Command

structure Result where
  args : List String
  code : Int
  output : String
  errors : String := ""
  deriving DecidableEq, Repr

def Result.isOk (r : Result) : Bool := r.code == 0

/-- Why a command gives no result: it failed or cannot be run, and the version control
system has a case of its own; or another cause. -/
inductive Error
  | failed (message : String) (result : Option Result)
  | git (message : String) (result : Option Result)
  | fault (f : Fault)
  deriving DecidableEq, Repr

def Error.message : Error → String
  | failed message _ => message
  | git message _ => message
  | fault f => f.message

def Error.result? : Error → Option Result
  | failed _ r => r
  | git _ r => r
  | fault _ => none

/-- What answers command lines. Where results are checked, a failed command is an error. -/
abbrev Runner := (args : List String) → (check : Bool) → Except Error Result

def run (runner : Runner) (args : List String) (check : Bool := true) : LogM Error Result := do
  modify (·.command args)
  match runner args check with
  | .ok r => return r
  | .error e => throw e

end RuleReview.Command
