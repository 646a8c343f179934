import RuleReview.Log

/-! Log entries as lines, and which of them are shown. -/

namespace RuleReview.Log

/-- How much is shown: all that is logged, the usual, or what calls for attention. -/
inductive Verbosity
  | verbose
  | normal
  | quiet
  deriving DecidableEq, Repr

/-- The verbosity of two wishes, of which the first one prevails. -/
def Verbosity.ofFlags (verbose quiet : Bool) : Verbosity :=
  if verbose then .verbose else if quiet then .quiet else .normal

def Verbosity.threshold : Verbosity → Level
  | .verbose => .debug
  | .normal => .info
  | .quiet => .warning

/-- Whether entries of a level are shown. -/
def Verbosity.shows (v : Verbosity) (level : Level) : Bool := v.threshold.rank ≤ level.rank

/-- The line of a message; all that is logged is shown with its level and its part. -/
def line (v : Verbosity) (level : Level) (part text : String) : String :=
  match v with
  | .verbose => s!"CodeSentry [{level.name}] {part}: {text}"
  | _ => "CodeSentry: " ++ text

end RuleReview.Log
