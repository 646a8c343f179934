/-! Digits of a base up to sixteen, and the numbers they denote. -/

namespace RuleReview.Text

/-- Hexadecimal digits, small or capital. -/
def isHex (c : Char) : Bool := c.isDigit || ('a' ≤ c && c ≤ 'f') || ('A' ≤ c && c ≤ 'F')

/-- Digits below eight. -/
def isOctal (c : Char) : Bool := '0' ≤ c && c ≤ '7'

def hexValue (c : Char) : Nat :=
  if c.isDigit then c.toNat - 48 else if c.val < 0x61 then c.toNat - 55 else c.toNat - 87

/-- The number that digits denote in a base. -/
def valueIn (base : Nat) (cs : List Char) : Nat :=
  cs.foldl (fun n c => base * n + hexValue c) 0

end RuleReview.Text
