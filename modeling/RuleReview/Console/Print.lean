import RuleReview.Console.Markup
import RuleReview.Console.Wrap

/-! What is printed on a console of a width: texts, panels and rules, as lines. -/

namespace RuleReview.Console

abbrev Lines := List String

def page (ls : Lines) : String := String.join (ls.map (· ++ "\n"))

def literal (width : Nat) (s : String) : Lines := (wrap width s.toList).map String.ofList

def pictured (width : Nat) (s : String) : Lines :=
  (wrap width (Emoji.replace s.toList)).map String.ofList

def marked (width : Nat) (s : String) : Except Markup.Error Lines := do
  return (wrap width (← Markup.read s)).map String.ofList

def gap (width : Nat) : Lines := literal width ""

def oneLine (cs : List Char) : List Char :=
  expandTabs ((visible cs).map fun c => if c = '\n' then ' ' else c)

def dashes (n : Nat) : List Char := List.replicate n '─'

/-- A text in a frame with rounded corners, and a text in the middle of its lower side. -/
def panel (width : Nat) (content foot : String) : Lines :=
  let inner := width - 4
  let rows := (wrap inner content.toList .fold .left).map fun row => ['│', ' '] ++ row ++ [' ', '│']
  let label := truncate inner .fold (' ' :: foot.toList ++ [' '])
  let rest := inner - Text.cells label
  let lower := if inner = 0 then dashes (width - 2)
    else '─' :: dashes (rest / 2) ++ label ++ dashes (rest - rest / 2) ++ ['─']
  if width = 0 then []
  else ((['╭'] ++ dashes (width - 2) ++ ['╮']).take width :: rows
    ++ [(['╰'] ++ lower ++ ['╯']).take width]).map String.ofList

def ruleAlone (width : Nat) : Lines := [String.ofList (dashes width)]

/-- A dashed line with a title in its middle. -/
def rule (width : Nat) (title : String) : Except Markup.Error Lines := do
  if title == "" || width ≤ 4 then return ruleAlone width
  let title := truncate (width - 4) .ellipsis (oneLine (← Markup.read title))
  let side := (width - Text.cells title) / 2
  return [String.ofList (Text.fit width
    (dashes (side - 1) ++ ' ' :: title ++ ' ' :: dashes (side + 1)))]

end RuleReview.Console
