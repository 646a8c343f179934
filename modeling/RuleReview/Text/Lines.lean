/-! Three readings of line structure. `rows` cuts at line feeds alone and numbers
the lines of a source file. `breakLines` cuts at every character that ends a line,
separators and form feeds included, and drops a last empty line. `normalizeBreaks`
reads carriage returns, alone or before a line feed, as line feeds. -/

namespace RuleReview.Text

/-- Puts a character in front of the first line. -/
def consToFirst (c : Char) : List (List Char) → List (List Char)
  | [] => [[c]]
  | l :: ls => (c :: l) :: ls

/-- The parts between occurrences of `sep`, one more than there are occurrences. -/
def splitOn (sep : Char) (cs : List Char) : List (List Char) :=
  cs.foldr (fun c acc => if c = sep then [] :: acc else consToFirst c acc) [[]]

def rows (cs : List Char) : List (List Char) := splitOn '\n' cs

def split (sep : Char) (s : String) : List String := (splitOn sep s.toList).map String.ofList

def endsLine (c : Char) : Bool :=
  c == '\n' || c == '\r' || c == '\x0b' || c == '\x0c' || c == '\x1c' || c == '\x1d'
    || c == '\x1e' || c == '\u0085' || c == '\u2028' || c == '\u2029'

/-- The lines of a text without their ends; a carriage return and the line feed
after it end one line together. -/
def breakLines : List Char → List (List Char)
  | [] => []
  | '\r' :: '\n' :: cs => [] :: breakLines cs
  | c :: cs => if endsLine c then [] :: breakLines cs else consToFirst c (breakLines cs)

def lines (s : String) : List String := (breakLines s.toList).map String.ofList

/-- Every carriage return, together with a line feed after it, becomes a line feed. -/
def normalizeBreaks : List Char → List Char
  | [] => []
  | '\r' :: '\n' :: cs => '\n' :: normalizeBreaks cs
  | '\r' :: cs => '\n' :: normalizeBreaks cs
  | c :: cs => c :: normalizeBreaks cs

end RuleReview.Text
