/-! Looking for a text inside another one. -/

namespace RuleReview.Text

def occurs (part : List Char) : List Char → Bool
  | [] => part.isEmpty
  | c :: cs => part.isPrefixOf (c :: cs) || occurs part cs

def contains (s part : String) : Bool := occurs part.toList s.toList

def startsWith (s part : String) : Bool := part.toList.isPrefixOf s.toList

def endsWith (s part : String) : Bool := part.toList.reverse.isPrefixOf s.toList.reverse

/-- The rest of a text after a given front. -/
def takeFront? (front cs : List Char) : Option (List Char) :=
  if front.isPrefixOf cs then some (cs.drop front.length) else none

/-- The longest front of a text whose characters satisfy `p`, if not empty, and the rest. -/
def takeRun? (p : Char → Bool) (cs : List Char) : Option (List Char × List Char) :=
  match cs.takeWhile p with
  | [] => none
  | run => some (run, cs.dropWhile p)

/-- A text without its first `n` characters. -/
def drop (n : Nat) (s : String) : String := String.ofList (s.toList.drop n)

def replaceChar (c : Char) (by_ : List Char) (cs : List Char) : List Char :=
  cs.flatMap fun d => if d = c then by_ else [d]

end RuleReview.Text
