import RuleReview.Decimal.Binary64
import RuleReview.Pattern.Parser
import RuleReview.Pattern.Matcher
import RuleReview.Text.Lines
import RuleReview.Text.Blank
import RuleReview.Total

/-! Figures about a text as a whole: its lines, the places where it branches, how deep
its braces go, and how long its functions are. -/

namespace RuleReview

/-- Figures about a text. -/
structure Metrics where
  totalLines : Nat
  codeLines : Nat
  commentLines : Nat
  complexity : Nat
  averageFunctionLength : Nat
  nestingDepth : Nat
  functionCount : Nat
  duplicatedLines : Nat
  commentRatio : Rat
  deriving DecidableEq, Repr

namespace Metrics

/-- Texts with which a comment line starts. -/
def commentMarks : List String := ["//", "/*", "*", "#", "\"\"\"", "'''"]

def isComment (line : List Char) : Bool :=
  commentMarks.any fun m => m.toList.isPrefixOf (Text.trim line)

def isBlankLine (line : List Char) : Bool := line.all Text.isBlank

/-- Whether a line is neither blank nor a comment. -/
def isCode (line : List Char) : Bool := !isBlankLine line && !isComment line

/-- A pattern in which letter case counts; one that cannot be read matches nowhere. -/
def pattern (source : String) : Pattern :=
  match Pattern.parse {} source with
  | .ok p => p
  | .error _ => .never

def branchPatterns : List Pattern := [
  "\\bif\\b", "\\belse\\s+if\\b", "\\bwhile\\b", "\\bfor\\b", "\\bswitch\\b", "\\bcase\\b",
  "\\bcatch\\b", "&&", "\\|\\|", "\\?.*:"].map pattern

def functionPatterns : List Pattern := [
  "function\\s+\\w+", "=\\s*\\([^)]*\\)\\s*=>", "def\\s+\\w+",
  "public\\s+\\w+\\s+\\w+\\s*\\("].map pattern

/-- Functions with a body in braces, up to the first closing one. -/
def bracedPatterns : List Pattern := [
  "function\\s+\\w+[^\x7b]*\\\x7b[^\x7d]*\\\x7d",
  "\\w+\\s*=\\s*\\([^)]*\\)\\s*=>\\s*\\\x7b[^\x7d]*\\\x7d"].map pattern

/-- The number of matches of several patterns in a text. -/
def countAll (ps : List Pattern) (t : Pattern.Line) : Nat := total (ps.map (·.count t))

def complexityOf (t : Pattern.Line) : Nat := 1 + countAll branchPatterns t

/-- One step along a text: the depth of braces and the greatest depth so far. -/
def braceStep : Nat × Nat → Char → Nat × Nat
  | (depth, deepest), c =>
    if c = '\x7b' then (depth + 1, max deepest (depth + 1))
    else if c = '\x7d' then (depth - 1, deepest)
    else (depth, deepest)

/-- The greatest depth of braces; a closing brace without an opening one has no effect. -/
def nestingDepthOf (code : List Char) : Nat := (code.foldl braceStep (0, 0)).2

/-! ### Function lengths -/

def isIndent (c : Char) : Bool := c == ' ' || c == '\t'

/-- A text after a word and at least one blank, and after all blanks that follow. -/
def pastWord (word : String) (cs : List Char) : Option (List Char) :=
  if word.toList.isPrefixOf cs then
    match cs.drop word.length with
    | c :: rest => if Text.isBlank c then some (rest.dropWhile Text.isBlank) else none
    | [] => none
  else none

/-- Whether a text starts with the header of a definition. -/
def startsDefinition (cs : List Char) : Bool :=
  match pastWord "def" ((pastWord "async" cs).getD cs) with
  | some rest => rest.head?.any Text.isWord
  | none => false

/-- The column after blanks, where a tab goes on to the next multiple of eight. -/
def columnAfter (blanks : List Char) : Nat :=
  blanks.foldl (fun n c => if c = '\t' then n + (8 - n % 8) else n + 1) 0

/-- The indentation of the header of a definition. -/
def headerIndent? (line : List Char) : Option Nat :=
  if startsDefinition (line.dropWhile isIndent) then
    some (columnAfter (line.takeWhile isIndent))
  else none

def leadingBlanks (line : List Char) : Nat := (line.takeWhile Text.isBlank).length

/-- How far the block of a header reaches into the lines after it: up to the last line
that is not blank before the first such line that is not indented deeper. -/
def blockReach (indent : Nat) : (passed last : Nat) → List (List Char) → Nat
  | _, last, [] => last
  | passed, last, line :: rest =>
    if isBlankLine line then blockReach indent (passed + 1) last rest
    else if leadingBlanks line ≤ indent then last
    else blockReach indent (passed + 1) (passed + 1) rest

/-- The lengths of the definitions that are indented blocks, in lines. -/
def blockLengths : List (List Char) → List Nat
  | [] => []
  | line :: rest =>
    match headerIndent? line with
    | some indent => (blockReach indent 0 0 rest + 1) :: blockLengths rest
    | none => blockLengths rest

/-- The lengths of the functions with a body in braces, in lines. -/
def bracedLengths (t : Pattern.Line) : List Nat :=
  bracedPatterns.flatMap fun p =>
    (p.spans t).map fun s => ((t.chars.extract s.1 s.2).toList.count '\n') + 1

/-- A rational number that is not negative, to the closest whole number; a half goes up. -/
def roundHalfUp (x : Rat) : Nat := (Decimal.nearest (x + 1 / 2)).floor.toNat

def average (lengths : List Nat) : Nat :=
  if lengths.isEmpty then 0
  else roundHalfUp (Decimal.nearest ((total lengths : Rat) / (lengths.length : Rat)))

/-! ### Duplicates -/

def normalized (line : List Char) : List Char := Text.lower (Text.trim line)

/-- Lines of this length or less are too plain to be duplicates. -/
def plainLength : Nat := 10

/-- The lines that are compared with others, as they are compared. -/
def comparable (lines : List (List Char)) : List (List Char) :=
  (lines.map normalized).filter fun l => plainLength < l.length

/-- The number of texts that occurred before. -/
def repeatsAfter (seen : List (List Char)) : List (List Char) → Nat
  | [] => 0
  | l :: ls => if seen.contains l then repeatsAfter seen ls + 1 else repeatsAfter (l :: seen) ls

def duplicatesOf (lines : List (List Char)) : Nat := repeatsAfter [] (comparable lines)

def ofCode (code : List Char) : Metrics :=
  let lines := Text.rows code
  let t := Pattern.Line.ofList code
  let comments := lines.countP isComment
  { totalLines := lines.length
    codeLines := lines.countP isCode
    commentLines := comments
    complexity := complexityOf t
    averageFunctionLength := average (bracedLengths t ++ blockLengths lines)
    nestingDepth := nestingDepthOf code
    functionCount := countAll functionPatterns t
    duplicatedLines := duplicatesOf lines
    commentRatio := Decimal.nearest ((comments : Rat) / (lines.length : Rat)) }

end Metrics

end RuleReview
