import RuleReview.Linter
import RuleReview.Text.Lines
import RuleReview.Text.Search

/-! Findings written on a line each: the file, the line, the column, a code and a text.
Other lines are passed over. -/

namespace RuleReview.Linter.Flake8

/-- A capital letter among the first 128 characters. -/
def isCapital (c : Char) : Bool := 'A' ≤ c && c ≤ 'Z'

/-- What stands on a line after the file. -/
structure Tail where
  line : List Char
  column : List Char
  code : List Char
  text : List Char
  deriving DecidableEq, Repr

/-- The number after a colon, and the rest. -/
def takeNumber? (cs : List Char) : Option (List Char × List Char) :=
  (Text.takeFront? [':'] cs).bind (Text.takeRun? Text.isDecimal)

/-- Line, column, code and text, of which the text may be empty. -/
def readTail? (cs : List Char) : Option Tail := do
  let (line, cs) ← takeNumber? cs
  let (column, cs) ← takeNumber? cs
  let cs ← Text.takeFront? [':'] cs
  let (_, cs) ← Text.takeRun? Text.isBlank cs
  let (letters, cs) ← Text.takeRun? isCapital cs
  let (digits, cs) ← Text.takeRun? Text.isDecimal cs
  let (_, text) ← Text.takeRun? Text.isBlank cs
  return ⟨line, column, letters ++ digits, text⟩

/-- The shortest front that is a file and what follows it, for a text that is not empty;
`before` is the front passed so far in reverse. -/
def readFrom? (before : List Char) : List Char → Option (List Char × Tail)
  | [] => none
  | c :: cs =>
    match readTail? cs with
    | some t => some ((c :: before).reverse, t)
    | none => readFrom? (c :: before) cs

def readLine? (cs : List Char) : Option (List Char × Tail) := readFrom? [] (Text.trim cs)

/-- The severity of a code: names that do not exist and faulty syntax are grave. -/
def severityOf : List Char → Severity
  | 'F' :: _ => .high
  | 'E' :: '9' :: _ => .high
  | 'E' :: _ => .medium
  | 'C' :: _ => .medium
  | _ => .low

def readNumber (ds : List Char) : Except Error Nat :=
  (Decimal.readDigits ds).mapError fun e => .fault (.ofInteger e)

def readParts (root : Path) (file : List Char) (t : Tail) : Except Error (String × Issue) := do
  let name ← fileName root (String.ofList file)
  let line ← readNumber t.line
  let column ← readNumber t.column
  let code := String.ofList t.code
  let message := code ++ ": " ++ String.ofList (Text.trim t.text)
  return (name, flake8.issue line column message (severityOf t.code) code)

def readLines (root : Path) : List (List Char) → Except Error Findings
  | [] => .ok []
  | cs :: rest =>
    match readLine? cs with
    | none => readLines root rest
    | some (file, t) => do
      let f ← readParts root file t
      return f :: (← readLines root rest)

def read (root : Path) (output : String) : Except Error Findings :=
  readLines root (Text.breakLines output.toList)

end RuleReview.Linter.Flake8
