import RuleReview.Text.Table.Width

/-! The width of a text in cells of a line. A joiner takes the character after it into the one
before, and a selector asks the character before it to be wide. -/

namespace RuleReview.Text

def cellsOf (c : Char) : Nat :=
  if 0x20 ≤ c.val && c.val < 0x7f then 1
  else if Table.zeroWidth.contains c.toNat then 0
  else if Table.doubleWidth.contains c.toNat then 2
  else 1

/-- The character that joins its neighbours to one picture. -/
def joiner : Char := '\u200d'

/-- The character that asks for a wide picture. -/
def wideSelector : Char := '\ufe0f'

/-- The cells that a selector adds to the last character that takes a cell. -/
def widening (last : Option Char) : Nat :=
  if last.any fun c => Table.widened.contains c.toNat then 1 else 0

/-- The cells of a text after the last character that takes a cell. -/
def cellsAfter (last : Option Char) : List Char → Nat
  | [] => 0
  | c :: cs =>
    if c = joiner then
      match cs with
      | [] => 0
      | _ :: cs => cellsAfter last cs
    else if c = wideSelector then widening last + cellsAfter none cs
    else if cellsOf c = 0 then cellsAfter last cs
    else cellsOf c + cellsAfter (some c) cs

def cells (cs : List Char) : Nat := cellsAfter none cs

/-! ### Graphemes -/

/-- Characters that are shown as one, and the cells that they take. -/
structure Grapheme where
  text : List Char
  cells : Nat
  deriving DecidableEq, Repr

namespace Grapheme

/-- Adds characters to the grapheme before them, which is the first one of a reversed list. -/
def extend (cs : List Char) (cells : Nat) : List Grapheme → List Grapheme
  | g :: gs => ⟨g.text ++ cs, g.cells + cells⟩ :: gs
  | [] => [⟨cs, cells⟩]

/-- The graphemes of a text after others, in reverse, and the last character that takes a
cell. A mark at the very front is a grapheme without a cell. -/
def after (before : List Grapheme) (last : Option Char) : List Char → List Grapheme
  | [] => before.reverse
  | c :: cs =>
    if c = joiner && !before.isEmpty then
      match cs with
      | [] => (extend [c] 0 before).reverse
      | d :: cs => after (extend [c, d] 0 before) last cs
    else if c = wideSelector then
      let more := widening last
      after (extend [c] more before) (if more = 0 then last else none) cs
    else if cellsOf c = 0 then after (extend [c] 0 before) last cs
    else after (⟨[c], cellsOf c⟩ :: before) (some c) cs

def ofList (cs : List Char) : List Grapheme := after [] none cs

/-- The front of a text that takes some cells; a grapheme that is cut leaves a blank. -/
def take : Nat → List Grapheme → List Char
  | 0, _ => []
  | _, [] => []
  | n, g :: gs => if g.cells ≤ n then g.text ++ take (n - g.cells) gs else [' ']

end Grapheme

def blanks (n : Nat) : List Char := List.replicate n ' '

def fill (n : Nat) (cs : List Char) : List Char := cs ++ blanks (n - cells cs)

/-- A text cut or filled up to a number of cells. -/
def fit (n : Nat) (cs : List Char) : List Char :=
  if cells cs ≤ n then fill n cs else Grapheme.take n (Grapheme.ofList cs)

end RuleReview.Text
