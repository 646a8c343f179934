import RuleReview.Text.Table.Printable

/-! Texts in quotation marks, as messages show them. Apostrophes serve as marks
unless the text has an apostrophe and no double mark; the mark in use and the
backslash are escaped, and a character that is not printable is written by number. -/

namespace RuleReview.Text

/-- Graphic characters and the plain blank. -/
def isPrintable (c : Char) : Bool :=
  if c.val < 0x80 then 0x20 ≤ c.val && c.val < 0x7f else Table.printable.contains c.toNat

/-- The last `width` hexadecimal digits of a number, in small letters. -/
def hexDigits (n : Nat) : (width : Nat) → List Char
  | 0 => []
  | width + 1 => hexDigits (n / 16) width ++ [Nat.digitChar (n % 16)]

/-- A character by number, in two, four or eight hexadecimal digits. -/
def numericEscape (c : Char) : List Char :=
  if c.toNat ≤ 0xff then '\\' :: 'x' :: hexDigits c.toNat 2
  else if c.toNat ≤ 0xffff then '\\' :: 'u' :: hexDigits c.toNat 4
  else '\\' :: 'U' :: hexDigits c.toNat 8

def quoteChar (mark c : Char) : List Char :=
  if c = mark || c = '\\' then ['\\', c]
  else if c = '\n' then ['\\', 'n']
  else if c = '\r' then ['\\', 'r']
  else if c = '\t' then ['\\', 't']
  else if isPrintable c then [c]
  else numericEscape c

def quoteMark (cs : List Char) : Char := if cs.contains '\'' && !cs.contains '"' then '"' else '\''

def quoted (s : String) : String :=
  let mark := quoteMark s.toList
  String.ofList (mark :: s.toList.flatMap (quoteChar mark) ++ [mark])

end RuleReview.Text
