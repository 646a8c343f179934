import RuleReview.Pattern.Reader
import RuleReview.Text.CharacterName
import RuleReview.Text.Numeral

/-! Reading single characters, escapes and sets of characters. -/

namespace RuleReview.Pattern

/-! ### Escapes -/

/-- Exactly `n` hexadecimal digits of a code point. -/
def takeHex (n : Nat) : Reader Nat := do
  let cs ← takeSome Text.isHex n
  let value := Text.valueIn 16 cs
  if cs.length = n && value ≤ 0x10ffff then return value else refuse

/-- Escapes for control characters and the backslash. -/
def controlEscape? : Char → Option Nat
  | 'a' => some 7
  | 'b' => some 8
  | 'f' => some 12
  | 'n' => some 10
  | 'r' => some 13
  | 't' => some 9
  | 'v' => some 11
  | '\\' => some 92
  | _ => none

/-- Escapes for kinds of characters, with whether the complement is meant. -/
def categoryEscape? : Char → Option (Category × Bool)
  | 'd' => some (.digit, false)
  | 'D' => some (.digit, true)
  | 's' => some (.blank, false)
  | 'S' => some (.blank, true)
  | 'w' => some (.word, false)
  | 'W' => some (.word, true)
  | _ => none

/-- A character by its name in braces. -/
def readNamed : Reader Nat := do
  expect '\x7b'
  match Text.named? (← takeName '\x7d').toList with
  | some c => return c
  | none => refuse

/-- A character escape that means the same inside and outside sets. -/
def readCodePoint (c : Char) : Reader Nat :=
  if c = 'N' then readNamed
  else if c = 'x' then takeHex 2
  else if c = 'u' then takeHex 4
  else if c = 'U' then takeHex 8
  else if c.isAlphanum then refuse
  else return c.toNat

def readSetEscape (c : Char) : Reader Element := do
  if let some n := controlEscape? c then return .char n
  if let some (k, negated) := categoryEscape? c then return .kind k negated
  if Text.isOctal c then
    let n := Text.valueIn 8 (c :: (← takeSome Text.isOctal 2))
    if n ≤ 0o377 then return .char n else refuse
  return .char (← readCodePoint c)

/-! ### Sets -/

def readElement : Token → Reader Element
  | .plain c => return .char c.toNat
  | .escaped c => readSetEscape c
  | .dangling => refuse

/-- The members of a set up to its bracket; `first` tells that none has been read, so that a
bracket is a member. -/
def readMembers : (fuel : Nat) → (first : Bool) → Reader (List Element)
  | 0, _ => refuse
  | fuel + 1, first => do
    let some this ← take | refuse
    if this = .plain ']' && !first then return []
    let low ← readElement this
    if ← accept '-' then
      let some that ← take | refuse
      if that = .plain ']' then return [low, .char 45]
      let high ← readElement that
      match low, high with
      | .char a, .char b =>
        if b < a then refuse
        return .range a b :: (← readMembers fuel false)
      | _, _ => refuse
    return low :: (← readMembers fuel false)

/-- A set after its opening bracket. One character alone is read as that character. -/
def readSet : Reader Term := do
  let negated ← accept '^'
  match (← readMembers ((← get).rest.length + 1) true).eraseDups with
  | [.char c] => return if negated then .otherChar c else .char c
  | es => return .set negated es

/-! ### Escapes outside sets -/

/-- A reference to a group that has been closed. -/
def readReference (g : Nat) : Reader Term := do
  unless ← isClosed g do refuse
  checkBehind g
  return .reference g

def readEscape (c : Char) : Reader Term := do
  match c with
  | 'A' => return .anchor .start
  | 'Z' => return .anchor .finish
  | 'b' => return .anchor (.boundary false)
  | 'B' => return .anchor (.boundary true)
  | '0' => return .char (Text.valueIn 8 ('0' :: (← takeSome Text.isOctal 2)))
  | _ =>
    if let some (k, negated) := categoryEscape? c then return .set false [.kind k negated]
    if let some n := controlEscape? c then return .char n
    if c.isDigit then
      let second ← takeSome Char.isDigit 1
      if Text.isOctal c && !second.isEmpty && second.all Text.isOctal then
        let third ← takeSome Text.isOctal 1
        unless third.isEmpty do
          let n := Text.valueIn 8 (c :: second ++ third)
          if n ≤ 0o377 then return .char n else refuse
      return ← readReference (Text.valueIn 10 (c :: second))
    return .char (← readCodePoint c)

end RuleReview.Pattern
