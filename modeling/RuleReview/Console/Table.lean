import RuleReview.Console.Print
import RuleReview.Decimal.Binary64
import RuleReview.Total

/-! Tables with a head. A column is as wide as its widest cell. Where a table does not fit,
its widest columns are narrowed first, and cells are broken into lines. -/

namespace RuleReview.Console

/-- A column: what its cells are about, and where they stand. -/
structure Column where
  head : String
  alignment : Alignment := .left

structure Table where
  title : String
  columns : List Column
  rows : List (List String)

namespace Table

/-! ### Widths -/

/-- The widest line of a cell, and a blank at either side. -/
def wanted (cell : List Char) : Nat :=
  ((Text.breakLines cell).map Text.cells).foldl max 0 + 2

def wantedOf (most : Nat) (cells : List (List Char)) : Nat :=
  min most ((cells.map wanted).foldl max 0)

/-- Takes `total` away from values by their shares, from each one at most a bound. -/
def reduce (bound total shares : Nat) : List (Nat × Bool) → List Nat
  | [] => []
  | (value, false) :: rest => value :: reduce bound total shares rest
  | (value, true) :: rest =>
    let less := if shares = 0 then 0 else min bound (Decimal.roundDiv total shares)
    (value - less) :: reduce bound (total - less) (shares - 1) rest

/-- Narrows the widest columns as far as the next narrower ones. -/
def narrowOnce (excess : Nat) (widths : List Nat) : List Nat :=
  let widest := widths.foldl max 0
  let second := (widths.filter (· != widest)).foldl max 0
  reduce (min excess (widest - second)) excess (widths.countP (· == widest))
    (widths.map fun w => (w, w == widest))

/-- Narrows the widest columns until the table is no wider than `most`, in `steps` at most. -/
def narrow (most : Nat) : (steps : Nat) → List Nat → List Nat
  | 0, widths => widths
  | steps + 1, widths =>
    if total widths ≤ most then widths
    else narrow most steps (narrowOnce (total widths - most) widths)

/-- The widths of columns that together are no wider than `most`. -/
def widths (most : Nat) (columns : List (List (List Char))) : List Nat :=
  let wanted := columns.map fun cells => max 1 (wantedOf most cells)
  if total wanted ≤ most then wanted
  else (columns.zip (narrow most (total wanted) wanted)).map fun (cells, w) => wantedOf w cells

/-! ### Lines -/

def cellLines (width : Nat) (a : Alignment) (cell : List Char) : List (List Char) :=
  (wrap (width - 2) cell .ellipsis a).map fun row =>
    ' ' :: Text.fit (width - 2) row ++ [' ']

def joinCells (left bar right : Char) (cells : List (List Char)) : List Char :=
  left :: [bar].intercalate cells ++ [right]

/-- The lines of a row, whose cells start in its first line or end in its last one. -/
def rowLines (bar : Char) (fromTop : Bool) (widths : List Nat) (cells : List (List (List Char))) :
    List (List Char) :=
  let height := (cells.map List.length).foldl max 0
  let filled := (widths.zip cells).map fun (w, ls) =>
    let empty := List.replicate (height - ls.length) (Text.blanks w)
    if fromTop then ls ++ empty else empty ++ ls
  (List.range height).map fun n => joinCells bar bar bar (filled.map fun ls => ls[n]?.getD [])

def border (left dash cross right : Char) (widths : List Nat) : List Char :=
  joinCells left cross right (widths.map fun w => List.replicate w dash)

/-- The cells of a row, each broken into lines. -/
def layOut (columns : List Column) (widths : List Nat) (row : List (List Char)) :
    List (List (List Char)) :=
  ((columns.zip widths).zip row).map fun ((c, w), cell) => cellLines w c.alignment cell

def readRow (row : List String) : Except Markup.Error (List (List Char)) :=
  row.mapM fun s => do return visible (← Markup.read s)

def columnCells (n : Nat) (rows : List (List (List Char))) : List (List Char) :=
  rows.map fun row => row[n]?.getD []

def render (width : Nat) (t : Table) : Except Markup.Error Lines := do
  let title ← Markup.read t.title
  let head ← readRow (t.columns.map (·.head))
  let rows ← t.rows.mapM readRow
  let bars := t.columns.length + 1
  let ws := widths (width - bars)
    ((List.range t.columns.length).map fun n => columnCells n (head :: rows))
  let lines := wrap (total ws + bars) title .fold .center
    ++ [border '┏' '━' '┳' '┓' ws]
    ++ rowLines '┃' false ws (layOut t.columns ws head)
    ++ [border '┡' '━' '╇' '┩' ws]
    ++ rows.flatMap (fun row => rowLines '│' true ws (layOut t.columns ws row))
    ++ [border '└' '─' '┴' '┘' ws]
  return lines.map String.ofList

end Table

end RuleReview.Console
