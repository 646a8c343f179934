import RuleReview.Text.Numeral

/-! Blanks, line ends and comments of configuration files, and their texts in four kinds of marks:
with escapes or without them, on one line or over several. -/

namespace RuleReview.Toml

/-! ### Layout -/

inductive ReadError
  | malformed
  | tooManyDigits (digits : Nat)
  | tooDeep
  deriving DecidableEq, Repr

/-- Control characters that may stand nowhere, a tab apart. -/
def isControl (c : Char) : Bool := (c.val < 0x20 && c != '\t') || c.val == 0x7f

/-- Control characters that may not stand in a text over several lines. -/
def isControlInLines (c : Char) : Bool := isControl c && c != '\n'

/-- Blanks within a line. -/
def isGap (c : Char) : Bool := c == ' ' || c == '\t'

/-- Blanks and line feeds. -/
def isGapOrBreak (c : Char) : Bool := isGap c || c == '\n'

/-- A text after the blanks at its front. -/
def skipGaps (cs : List Char) : List Char := cs.dropWhile isGap

def skipComment : List Char → Except ReadError (List Char)
  | '#' :: cs =>
    if (cs.takeWhile (· != '\n')).any isControl then .error .malformed
    else .ok (cs.dropWhile (· != '\n'))
  | cs => .ok cs

/-- A text after blanks, line feeds and comments; `fuel` bounds the number of comments. -/
def skipLines : (fuel : Nat) → List Char → Except ReadError (List Char)
  | 0, cs => .ok (cs.dropWhile isGapOrBreak)
  | fuel + 1, cs =>
    match cs.dropWhile isGapOrBreak with
    | '#' :: rest => do skipLines fuel (← skipComment ('#' :: rest))
    | rest => .ok rest

/-! ### Texts -/

/-- The character of exactly `n` hexadecimal digits. -/
def readHex (n : Nat) (cs : List Char) : Except ReadError (Char × List Char) :=
  let ds := cs.take n
  let value := Text.valueIn 16 ds
  if ds.length = n ∧ ds.all Text.isHex ∧ value.isValidChar then .ok (Char.ofNat value, cs.drop n)
  else .error .malformed

/-- The character after a backslash. -/
def readEscape : List Char → Except ReadError (Char × List Char)
  | 'b' :: cs => .ok ('\x08', cs)
  | 't' :: cs => .ok ('\t', cs)
  | 'n' :: cs => .ok ('\n', cs)
  | 'f' :: cs => .ok ('\x0c', cs)
  | 'r' :: cs => .ok ('\r', cs)
  | '"' :: cs => .ok ('"', cs)
  | '\\' :: cs => .ok ('\\', cs)
  | 'u' :: cs => readHex 4 cs
  | 'U' :: cs => readHex 8 cs
  | _ => .error .malformed

/-- A text after a backslash that joins lines: blanks, a line feed, and all blanks and
line feeds after it. -/
def joinLines (cs : List Char) : Except ReadError (List Char) :=
  match skipGaps cs with
  | [] => .ok []
  | '\n' :: rest => .ok (rest.dropWhile isGapOrBreak)
  | _ => .error .malformed

/-- A text with escapes up to its mark; `acc` holds its characters in reverse. -/
def readBasic : (fuel : Nat) → (acc : List Char) → List Char →
    Except ReadError (String × List Char)
  | 0, _, _ | _, _, [] => .error .malformed
  | _ + 1, acc, '"' :: cs => .ok (String.ofList acc.reverse, cs)
  | fuel + 1, acc, '\\' :: cs =>
    match readEscape cs with
    | .ok (c, rest) => readBasic fuel (c :: acc) rest
    | .error e => .error e
  | fuel + 1, acc, c :: cs =>
    if isControl c then .error .malformed else readBasic fuel (c :: acc) cs

/-- A text with escapes over several lines up to its three marks. -/
def readBasicLines : (fuel : Nat) → (acc : List Char) → List Char →
    Except ReadError (List Char × List Char)
  | 0, _, _ | _, _, [] => .error .malformed
  | _ + 1, acc, '"' :: '"' :: '"' :: cs => .ok (acc.reverse, cs)
  | fuel + 1, acc, '\\' :: cs =>
    if cs.head?.any isGapOrBreak then
      match joinLines cs with
      | .ok rest => readBasicLines fuel acc rest
      | .error e => .error e
    else match readEscape cs with
      | .ok (c, rest) => readBasicLines fuel (c :: acc) rest
      | .error e => .error e
  | fuel + 1, acc, c :: cs =>
    if isControlInLines c then .error .malformed else readBasicLines fuel (c :: acc) cs

/-- A text without escapes up to its mark. -/
def readLiteral (cs : List Char) : Except ReadError (String × List Char) :=
  let s := cs.takeWhile (· != '\'')
  match cs.dropWhile (· != '\'') with
  | _ :: rest => if s.any isControl then .error .malformed else .ok (String.ofList s, rest)
  | [] => .error .malformed

/-- A text without escapes over several lines up to its three marks. -/
def readLiteralLines : (acc : List Char) → List Char → Except ReadError (List Char × List Char)
  | acc, '\'' :: '\'' :: '\'' :: cs => .ok (acc.reverse, cs)
  | acc, c :: cs =>
    if isControlInLines c then .error .malformed else readLiteralLines (c :: acc) cs
  | _, [] => .error .malformed

/-- Up to two more marks that belong to a text over several lines. -/
def closeLines (mark : Char) : List Char × List Char → String × List Char
  | (s, a :: b :: rest) =>
    if a = mark ∧ b = mark then (String.ofList (s ++ [mark, mark]), rest)
    else if a = mark then (String.ofList (s ++ [mark]), b :: rest)
    else (String.ofList s, a :: b :: rest)
  | (s, [a]) =>
    if a = mark then (String.ofList (s ++ [mark]), []) else (String.ofList s, [a])
  | (s, []) => (String.ofList s, [])

/-- A text without the line feed at its front. -/
def dropBreak : List Char → List Char
  | '\n' :: cs => cs
  | cs => cs

end RuleReview.Toml
