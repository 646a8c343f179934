import RuleReview.Command
import RuleReview.Data.Shown
import RuleReview.Text.Lines
import RuleReview.Text.Blank
import RuleReview.Text.Utf8

/-! A runner over processes. The output of a process has to be well-formed text, and its
line ends are read as line feeds. -/

namespace RuleReview.Command

inductive Process
  | missing
  | refused (f : Fault)
  | timedOut
  | ended (code : Int) (output errors : ByteArray)

/-- The time a process may take, in seconds and as messages write it. Some values are no time, or
one that nobody can wait for. -/
structure TimeLimit where
  seconds : Except Fault Rat
  text : String

namespace TimeLimit

def default : TimeLimit := ⟨.ok 120, "120.0"⟩

def greatestWait : Nat := 2147483647

def greatestTime : Nat := 9223372036854

/-- A number of seconds to wait for, counted in whole milliseconds. -/
def bounded (x : Rat) : Except Fault Rat :=
  let n := (x * 1000).ceil
  if (greatestTime : Int) < n then .error .timeTooLarge
  else if (greatestWait : Int) < n then .error .waitTooLong
  else .ok x

def ofData (v : Data) : TimeLimit :=
  let seconds := match v with
    | .integer n =>
      match Decimal.Binary64.ofScientific (n < 0) n.natAbs 0 with
      | .infinity _ => .error .integerTooLarge
      | _ => bounded n
    | .boolean b => .ok (if b then 1 else 0)
    | .real (.finite x) => bounded x
    | .real .negativeZero => .ok 0
    | .real (.infinity true) => .ok (-1)
    | .real (.infinity false) => .error .infinityToInteger
    | .real .notANumber => .error .notANumberToInteger
    | _ => .error .wrongKind
  ⟨seconds, v.shown⟩

end TimeLimit

/-- The text that a process wrote. -/
def readOutput (bytes : ByteArray) : Except Error String :=
  match Text.Utf8.decode? bytes with
  | some s => .ok (String.ofList (Text.normalizeBreaks s.toList))
  | none => .error (.fault .undecodable)

/-- What a failed command says: on the error stream, else on the other one. -/
def complaint (r : Result) : String :=
  if !Text.isBlankText r.errors then Text.strip r.errors
  else if !Text.isBlankText r.output then Text.strip r.output
  else "command failed: " ++ " ".intercalate r.args

def Runner.ofProcess (limit : TimeLimit) (start : List String → Process) : Runner :=
  fun args check =>
    match start args with
    | .missing => .error (.failed (args.headD "" ++ " is unavailable") none)
    | .refused f => .error (.fault f)
    | .timedOut =>
      .error (.failed (s!"command timed out after {limit.text}s: " ++ " ".intercalate args) none)
    | .ended code output errors => do
      let output ← readOutput output
      let errors ← readOutput errors
      let r : Result := { args, code, output, errors }
      if check && !r.isOk then throw (.failed (complaint r) (some r))
      return r

end RuleReview.Command
