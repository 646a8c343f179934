/-! Blank characters, trimming, and splitting into words. A character is blank if
Unicode gives it the property White_Space or makes it a separator of lines,
paragraphs, segments or blanks, the four information separators included. -/

namespace RuleReview.Text

/-- Blank characters of every script, tabs, line breaks and information separators. -/
def isBlank (c : Char) : Bool :=
  if c.val < 0x80 then (0x09 ≤ c.val && c.val ≤ 0x0d) || (0x1c ≤ c.val && c.val ≤ 0x20)
  else c.val == 0x85 || c.val == 0xa0 || c.val == 0x1680
    || (0x2000 ≤ c.val && c.val ≤ 0x200a) || c.val == 0x2028 || c.val == 0x2029
    || c.val == 0x202f || c.val == 0x205f || c.val == 0x3000

/-- Blank among the first 128 characters, for patterns that look at those only. -/
def isAsciiBlank (c : Char) : Bool := (0x09 ≤ c.val && c.val ≤ 0x0d) || c.val == 0x20

def trimStart (cs : List Char) : List Char := cs.dropWhile isBlank

/-- Without the characters at the end that satisfy `p`. -/
def dropEndWhile (p : Char → Bool) (cs : List Char) : List Char := (cs.reverse.dropWhile p).reverse

def trimEnd (cs : List Char) : List Char := dropEndWhile isBlank cs

def trim (cs : List Char) : List Char := trimEnd (trimStart cs)

/-- A text without the blanks at either end. -/
def strip (s : String) : String := String.ofList (trim s.toList)

def isBlankText (s : String) : Bool := s.toList.all isBlank

/-- The maximal runs of characters that are not blank. -/
def words (cs : List Char) : List (List Char) :=
  cs.foldr (fun c (acc : List (List Char) × Bool) =>
    if isBlank c then (acc.1, false)
    else match acc with
      | (w :: ws, true) => ((c :: w) :: ws, true)
      | (ws, _) => ([c] :: ws, true)) ([], false) |>.1

end RuleReview.Text
