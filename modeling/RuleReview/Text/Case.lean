import RuleReview.Text.Table.Case

/-! Letter case. The full maps work on texts and may lengthen them; a capital sigma
becomes a final sigma at the end of a word. The simple map `fold` works on single
characters and serves comparison without regard to case. -/

namespace RuleReview.Text

/-- The full form of a character in a case map: a longer form, or one character. -/
def fullForm (longer : List (Nat × List Nat)) (runs : Runs) (c : Char) : List Char :=
  match longer.lookup c.toNat with
  | some cs => cs.map Char.ofNat
  | none => [Char.ofNat (runs.apply c.toNat)]

/-- The small form of a character outside any word. -/
def lowerChar (c : Char) : List Char :=
  if c.val < 0x80 then [c.toLower] else fullForm Table.lowerLong Table.lower c

/-- The capital form of a character. -/
def upperChar (c : Char) : List Char :=
  if c.val < 0x80 then [c.toUpper] else fullForm Table.upperLong Table.upper c

/-- The form of a character at the head of a word. -/
def titleChar (c : Char) : List Char :=
  if c.val < 0x80 then [c.toUpper] else fullForm Table.titleLong Table.title c

def isCased (c : Char) : Bool :=
  if c.val < 0x80 then c.isAlpha else Table.cased.contains c.toNat

/-- Whether a character is passed over when the neighbours of a sigma are looked at. -/
def isCaseIgnorable (c : Char) : Bool := Table.caseIgnorable.contains c.toNat

/-- Whether the first character that is not passed over has a case. -/
def nextIsCased (cs : List Char) : Bool :=
  match cs.dropWhile isCaseIgnorable with
  | c :: _ => isCased c
  | [] => false

/-- The small form of a character between the reversed text `before` and the text `after`. -/
def lowerBetween (before : List Char) (c : Char) (after : List Char) : List Char :=
  if c = 'Σ' then
    if nextIsCased before && !nextIsCased after then ['ς'] else ['σ']
  else lowerChar c

/-- Small forms along a text, `before` being the reversed text already passed. -/
def lowerFrom (before : List Char) : List Char → List Char
  | [] => []
  | c :: cs => lowerBetween before c cs ++ lowerFrom (c :: before) cs

def lower (cs : List Char) : List Char :=
  if cs.all (·.val < 0x80) then cs.map Char.toLower else lowerFrom [] cs

def upper (cs : List Char) : List Char := cs.flatMap upperChar

/-- Heads of words along a text: a character after one that has no case starts a word. -/
def titleFrom (before : List Char) : List Char → List Char
  | [] => []
  | c :: cs =>
    (if before.head?.any isCased then lowerBetween before c cs else titleChar c)
      ++ titleFrom (c :: before) cs

/-- A text with capital heads of words and small letters otherwise. -/
def title (cs : List Char) : List Char := titleFrom [] cs

def toLower (s : String) : String := String.ofList (lower s.toList)

def toUpper (s : String) : String := String.ofList (upper s.toList)

/-! ### Comparison without regard to case -/

/-- The first character of the small form. -/
def fold (c : Char) : Char :=
  if c.val < 0x80 then c.toLower else (lowerChar c).headD c

/-- The first character of the capital form. -/
def unfold (c : Char) : Char :=
  if c.val < 0x80 then c.toUpper else (upperChar c).headD c

/-- Whether a character differs from its small or its capital form. -/
def hasCase (c : Char) : Bool := fold c != c || unfold c != c

/-- The other small letters that have the same capital as a small letter. -/
def sharedForms (c : Char) : List Char :=
  match Table.sharedCapital.find? (·.contains c.toNat) with
  | some group => (group.filter (· != c.toNat)).map Char.ofNat
  | none => []

/-- Within the first 128 characters only. -/
def foldAscii (c : Char) : Char := c.toLower

/-- The characters whose small form is the small letter `c`, without `c` itself. -/
def capitalsOf (c : Char) : List Char :=
  (Table.lower.sources c.toNat ++
    (Table.lowerLong.filter fun e => e.2.head? == some c.toNat).map (·.1)).map Char.ofNat

/-- The characters equal to the small letter `c` up to case, `c` included. -/
def caseClass (c : Char) : List Char :=
  if c = 'i' then ['i', 'I', 'ı', 'İ']
  else if c = 'k' then ['k', 'K', '\u212a']
  else if c = 's' then ['s', 'S', 'ſ']
  else if c.val < 0x80 then [c, c.toUpper]
  else (c :: sharedForms c).flatMap fun d => d :: capitalsOf d

end RuleReview.Text
