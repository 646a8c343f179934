import RuleReview.Text.Table.Word

/-! Word characters and decimal digits of every script. A name is a letter or a low line, and after
it letters, digits, marks and joining punctuation. -/

namespace RuleReview.Text

/-- Letters, digits, other numerals. -/
def isAlphanumeric (c : Char) : Bool :=
  if c.val < 0x80 then c.isAlphanum else Table.alphanumeric.contains c.toNat

/-- Letters, digits, other numerals and the low line. -/
def isWord (c : Char) : Bool := c == '_' || isAlphanumeric c

/-- Word characters among the first 128. -/
def isAsciiWord (c : Char) : Bool := c == '_' || c.isAlphanum

/-- The value of a decimal digit in its row of digits, searched among ascending rows. -/
def digitIn : Ranges → Nat → Option Nat
  | [], _ => none
  | (first, last) :: rest, c =>
    if c < first then none else if c ≤ last then some ((c - first) % 10) else digitIn rest c

def digitValue? (c : Char) : Option Nat :=
  if c.val < 0x80 then if c.isDigit then some (c.toNat - 48) else none
  else digitIn Table.decimal c.toNat

def isDecimal (c : Char) : Bool := (digitValue? c).isSome

/-! ### Names -/

def startsName (c : Char) : Bool :=
  if isAlphanumeric c then !Table.neverFirst.contains c.toNat else Table.otherFirst.contains c.toNat

/-- Whether a character may stand in a name. -/
def isInName (c : Char) : Bool :=
  if isAlphanumeric c then !Table.neverInName.contains c.toNat
  else Table.otherInName.contains c.toNat

def isName : List Char → Bool
  | [] => false
  | c :: cs => startsName c && cs.all isInName

end RuleReview.Text
