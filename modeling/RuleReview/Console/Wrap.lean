import RuleReview.Text.Blank
import RuleReview.Text.Lines
import RuleReview.Text.Width

/-! Text broken into lines of a width. A line is broken before a word that does not fit. A
word wider than a line is folded over several lines, or cut where an ellipsis is to show
that there is more. -/

namespace RuleReview.Console

/-- What becomes of a word that is wider than a line. -/
inductive Overflow
  | fold
  | ellipsis
  deriving DecidableEq, Repr

/-- Where a text stands between the ends of a line; a loose text is not filled up. -/
inductive Alignment
  | loose
  | left
  | center
  | right
  deriving DecidableEq, Repr

/-! ### Characters -/

/-- Control characters that are not shown: the bell, a step back, and breaks of lines and
pages other than a line feed. -/
def isHidden (c : Char) : Bool :=
  c == '\x07' || c == '\x08' || c == '\x0b' || c == '\x0c' || c == '\r'

/-- A text without hidden control characters. -/
def visible (cs : List Char) : List Char := cs.filter fun c => !isHidden c

/-- The cells between two stops of a tab. -/
def tabSize : Nat := 8

/-- Parts of a text that starts at a cell, each but the last of which ends with a tab, with a
blank for every cell up to the stop of the tab. -/
def joinTabs (at_ : Nat) : List (List Char) → List Char
  | [] => []
  | [part] => part
  | part :: parts =>
    let part := part ++ [' ']
    let next := at_ + Text.cells part
    let gap := (tabSize - next % tabSize) % tabSize
    part ++ Text.blanks gap ++ joinTabs (next + gap) parts

/-- A text with a blank for every cell up to the stop of a tab. -/
def expandTabs (cs : List Char) : List Char := joinTabs 0 (Text.splitOn '\t' cs)

/-! ### Words -/

/-- Whether two neighbours are in one word: only a blank parts it from the next one. -/
def staysInWord (a b : Char) : Bool := !(Text.isBlank a && !Text.isBlank b)

/-- The words of a text, each with the blanks after it. Blanks at the front belong to the
first word; a text of blanks has no word. -/
def wordsOf (cs : List Char) : List (List Char) :=
  match cs.splitBy staysInWord with
  | [] => []
  | [word] => if word.all Text.isBlank then [] else [word]
  | word :: next :: rest =>
    if word.all Text.isBlank then (word ++ next) :: rest else word :: next :: rest

/-- Puts characters in front of the first line. -/
def prependTo (cs : List Char) : List (List Char) → List (List Char)
  | [] => [cs]
  | l :: ls => (cs ++ l) :: ls

/-- Graphemes cut into parts of a width. -/
def chopFrom (width used : Nat) : List Text.Grapheme → List (List Char)
  | [] => [[]]
  | g :: gs =>
    if width < used + g.cells then [] :: prependTo g.text (chopFrom width g.cells gs)
    else prependTo g.text (chopFrom width (used + g.cells) gs)

/-- A text cut into parts of a width. -/
def chop (width : Nat) (cs : List Char) : List (List Char) :=
  chopFrom width 0 (Text.Grapheme.ofList cs)

/-! ### Lines -/

/-- The lines so far, the one in work, and the cells used of it. -/
structure Breaking where
  done : List (List Char) := []
  current : List Char := []
  used : Nat := 0
  deriving DecidableEq, Repr

namespace Breaking

/-- Starts a new line, unless nothing has been set yet. -/
def newLine (b : Breaking) : Breaking :=
  if b.done.isEmpty && b.current.isEmpty then b
  else { b with done := b.done ++ [b.current], current := [] }

def onNewLine (b : Breaking) (cs : List Char) : Breaking :=
  let b := b.newLine
  { b with current := b.current ++ cs, used := Text.cells cs }

def add (width : Nat) (o : Overflow) (b : Breaking) (word : List Char) : Breaking :=
  let needed := Text.cells (Text.trimEnd word)
  if b.used + needed ≤ width then
    { b with current := b.current ++ word, used := b.used + Text.cells word }
  else if width < needed && o == .fold then (chop width word).foldl onNewLine b
  else b.onNewLine word

def lines (b : Breaking) : List (List Char) := b.done ++ [b.current]

end Breaking

def breakLine (width : Nat) (o : Overflow) (cs : List Char) : List (List Char) :=
  match wordsOf cs with
  | [] => [cs]
  | words => (words.foldl (Breaking.add width o) {}).lines

/-- A line without those blanks at its end that are beyond as many characters as the width. -/
def cropEnd (width : Nat) (cs : List Char) : List Char :=
  let excess := cs.length - width
  let blanks := (cs.reverse.takeWhile Text.isBlank).length
  cs.take (cs.length - min blanks excess)

def truncate (width : Nat) (o : Overflow) (cs : List Char) : List Char :=
  if Text.cells cs ≤ width then cs
  else match o with
    | .fold => Text.fit width cs
    | .ellipsis => Text.fit (width - 1) cs ++ ['…']

/-- A line in its place between the ends. -/
def align (width : Nat) (o : Overflow) (a : Alignment) (cs : List Char) : List Char :=
  match a with
  | .loose => truncate width o cs
  | .left => Text.fill width (truncate width o cs)
  | .center =>
    let cs := truncate width o (Text.trimEnd cs)
    Text.fill width (Text.blanks ((width - Text.cells cs) / 2) ++ cs)
  | .right =>
    let cs := truncate width o (Text.trimEnd cs)
    Text.blanks (width - Text.cells cs) ++ cs

/-- A text as lines of a width, none where there is no room at all. -/
def wrap (width : Nat) (cs : List Char) (o : Overflow := .fold) (a : Alignment := .loose) :
    List (List Char) :=
  if width = 0 then [] else (Text.rows (visible cs)).flatMap fun row =>
    (breakLine width o (expandTabs row)).map fun line => align width o a (cropEnd width line)

end RuleReview.Console
