import RuleReview.Text.Blank
import RuleReview.Text.Word

/-! Reading whole numbers: digits of any script, blanks around them, a sign, and single
low lines between digits. Numbers of more than 4300 digits are refused. -/

namespace RuleReview.Decimal

/-- Why a text is not read as a whole number. -/
inductive IntegerError
  | malformed (text : String)
  | tooLong (digits : Nat)
  deriving DecidableEq, Repr

/-- The most digits a whole number may have. -/
def maxDigits : Nat := 4300

/-- Why a number of digits is too large. -/
def tooLongText (digits : Nat) : String :=
  s!"Exceeds the limit (4300 digits) for integer string conversion: value has {digits} digits; "
    ++ "use sys.set_int_max_str_digits() to increase the limit"

/-- The values of digits with single low lines between them; none for any other text. -/
def digitRun? : List Char → Option (List Nat)
  | [] => none
  | [c] => (Text.digitValue? c).map ([·])
  | c :: '_' :: cs => do
    let d ← Text.digitValue? c
    let ds ← digitRun? cs
    return d :: ds
  | c :: cs => do
    let d ← Text.digitValue? c
    let ds ← digitRun? cs
    return d :: ds

/-- Whether a character may stand in a run of digits. -/
def inDigitRun (c : Char) : Bool := c == '_' || Text.isDecimal c

/-- The number of digits at the front of a text. -/
def leadingDigits (cs : List Char) : Nat := ((cs.takeWhile inDigitRun).filter (· != '_')).length

/-- The sign at the front of a text and the rest. -/
def takeSign : List Char → Bool × List Char
  | '-' :: cs => (true, cs)
  | '+' :: cs => (false, cs)
  | cs => (false, cs)

/-- Blanks around a number: those of every script, but no information separators. -/
def isGap (c : Char) : Bool := if c.val < 0x80 then Text.isAsciiBlank c else Text.isBlank c

def withoutGaps (cs : List Char) : List Char := Text.dropEndWhile isGap (cs.dropWhile isGap)

/-- The value of digits from the most significant one on. -/
def ofDigits (ds : List Nat) : Nat := ds.foldl (fun n d => 10 * n + d) 0

def readDigits (ds : List Char) : Except IntegerError Nat :=
  if maxDigits < ds.length then .error (.tooLong ds.length)
  else .ok (ofDigits (ds.filterMap Text.digitValue?))

/-- The whole number that a text denotes. -/
def readInteger (s : String) : Except IntegerError Int :=
  let (negative, cs) := takeSign (withoutGaps s.toList)
  if maxDigits < leadingDigits cs then .error (.tooLong (leadingDigits cs))
  else match digitRun? cs with
    | none => .error (.malformed s)
    | some ds => .ok (if negative then -(ofDigits ds : Int) else ofDigits ds)

end RuleReview.Decimal
