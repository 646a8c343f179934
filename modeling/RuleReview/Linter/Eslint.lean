import RuleReview.Linter
import RuleReview.Data.Number
import RuleReview.Data.Shown

/-! Findings written as JSON: a list of files, each with a list of messages. Files and
messages of another form are passed over, but a column that is no number is not. -/

namespace RuleReview.Linter.Eslint

/-- The line of a message, which has to be a whole number. -/
def lineOf : Option Data → Option Int
  | some (.integer n) => some n
  | some (.boolean b) => some (if b then 1 else 0)
  | _ => none

/-- The value of a member, or another one where it counts as absent. -/
def orElse (d : Option Data) (other : Data) : Data :=
  match d with
  | some d => if d.isTruthy then d else other
  | none => other

/-- The severity of a number: errors are two and warnings one. -/
def severityOf : Option Data → Except Fault Severity
  | some (.list _) | some (.object _) => .error .wrongKind
  | some (.integer 2) => .ok .high
  | some (.integer 1) | some (.boolean true) => .ok .medium
  | some (.real (.finite x)) => .ok (if x = 2 then .high else if x = 1 then .medium else .low)
  | _ => .ok .low

/-- The finding of a message, none for one without a line. -/
def readMessage (d : Data) : Except Fault (Option Issue) := do
  let some line := lineOf (d.get? "line") | return none
  let rule := (orElse (d.get? "ruleId") (.text "eslint")).plain
  let column ← (orElse (d.get? "column") (.integer 1)).toInteger
  let message := ((d.get? "message").getD (.text "")).plain ++ " (" ++ rule ++ ")"
  let severity ← severityOf (d.get? "severity")
  return some (eslint.issue line column message severity rule)

def readMessages (file : String) : List Data → Except Error Findings
  | [] => .ok []
  | d :: ds => do
    match ← (readMessage d).mapError .fault with
    | some i => return (file, i) :: (← readMessages file ds)
    | none => readMessages file ds

/-- The name of the file that letters tell. Half of a character can be no part of a name, unless it
stands for a byte that is no UTF-8. -/
def nameOf (root : Path) (ls : List Text.Letter) : Except Error String :=
  if ls.any fun l => l.isHalf && !l.isByte then .error (.fault .unencodable)
  else fileName root (Text.mend ls)

def readFiles (root : Path) : List Json.Value → Except Error Findings
  | [] => .ok []
  | v :: vs => do
    match (v.get? "filePath").bind Json.Value.letters?,
      (v.get? "messages").bind Json.Value.items? with
    | some ls, some messages =>
      let found ← readMessages (← nameOf root ls) (messages.map Json.Value.mend)
      return found ++ (← readFiles root vs)
    | _, _ => readFiles root vs

def read (root : Path) (output : String) : Except Error Findings :=
  match Json.parse (Text.lettersOf output) with
  | .error e => .error (.fault (.ofJson e))
  | .ok (.list files) => readFiles root files
  | .ok _ => .error .notList

end RuleReview.Linter.Eslint
