import RuleReview.Text.Lines
import RuleReview.Text.Numeral
import RuleReview.Text.Table.CharacterName.Ancient
import RuleReview.Text.Table.CharacterName.Forms
import RuleReview.Text.Table.CharacterName.Pictures
import RuleReview.Text.Table.CharacterName.Scripts
import RuleReview.Text.Table.CharacterName.Signs
import RuleReview.Text.Table.CharacterName.Symbols

/-! Characters by name. Most names stand in tables; those of Korean syllables are put together
from the names of their sounds, and those of ideographs end in the character's number. -/

namespace RuleReview.Text

namespace CharacterName

/-! ### Names in rows -/

/-- The character of a name in a row, where each name but the first starts with a number of
words of the one before. -/
def inEntries? (name : List Char) (code : Nat) (before : List (List Char)) :
    List (List Char) → Option Nat
  | [] => none
  | entry :: entries =>
    let words := before.take (valueIn 16 (entry.take 1)) ++ splitOn ' ' (entry.drop 1)
    if [' '].intercalate words = name then some code
    else inEntries? name (code + 1) words entries

/-- The number at the front of an entry, and the rest after a blank. -/
def numbered (entry : List Char) : Nat × List Char :=
  (valueIn 16 (entry.takeWhile (· != ' ')), (entry.dropWhile (· != ' ')).drop 1)

def inRow? (name : List Char) (row : String) : Option Nat :=
  match splitOn ';' row.toList with
  | [] => none
  | first :: entries =>
    let (code, firstName) := numbered first
    inEntries? name code [] (('0' :: firstName) :: entries)

/-- The character of a further name in a row of numbers and names. -/
def inOther? (name : List Char) (row : String) : Option Nat :=
  (splitOn ';' row.toList).findSome? fun entry =>
    let (code, other) := numbered entry
    if other = name then some code else none

def rows : List (List String) := [
  Table.CharacterName.scripts, Table.CharacterName.symbols, Table.CharacterName.forms,
  Table.CharacterName.ancient, Table.CharacterName.signs, Table.CharacterName.pictures]

/-! ### Names with a number -/

/-- Names that end in the number of their character, in four or more digits. -/
def numberedNames : List (String × List (Nat × Nat)) := [
  ("CJK COMPATIBILITY IDEOGRAPH-", [(0xf900, 0xfa6d), (0xfa70, 0xfad9), (0x2f800, 0x2fa1d)]),
  ("KHITAN SMALL SCRIPT CHARACTER-", [(0x18b00, 0x18cd5)]),
  ("NUSHU CHARACTER-", [(0x1b170, 0x1b2fb)])]

def numberAfter? (front : String) (name : List Char) : Option Nat :=
  let digits := name.drop front.length
  if front.toList.isPrefixOf name && (digits.length == 4 || digits.length == 5)
      && digits.all (fun c => isHex c && !c.isLower) then
    some (valueIn 16 digits)
  else none

def within (ranges : List (Nat × Nat)) (n : Nat) : Bool :=
  ranges.any fun (low, high) => low ≤ n && n ≤ high

def inNumbered? (name : List Char) : Option Nat :=
  numberedNames.findSome? fun (front, ranges) =>
    (numberAfter? front name).filter fun n => within ranges n && name.length == front.length
      + (if n < 0x10000 then 4 else 5)

def ideographs : List (Nat × Nat) := [
  (0x3400, 0x4dbf), (0x4e00, 0x9fff), (0x20000, 0x2a6df), (0x2a700, 0x2b738), (0x2b740, 0x2b81d),
  (0x2b820, 0x2cea1), (0x2ceb0, 0x2ebe0), (0x30000, 0x3134a)]

/-! ### Korean syllables -/

/-- Sounds at the start of a syllable. -/
def initials : List String := [
  "G", "GG", "N", "D", "DD", "R", "M", "B", "BB", "S", "SS", "", "J", "JJ", "C", "K", "T", "P", "H"]

/-- Sounds in the middle of a syllable. -/
def vowels : List String := [
  "A", "AE", "YA", "YAE", "EO", "E", "YEO", "YE", "O", "WA", "WAE", "OE", "YO", "U", "WEO", "WE",
  "WI", "YU", "EU", "YI", "I"]

/-- Sounds at the end of a syllable. -/
def finals : List String := [
  "", "G", "GG", "GS", "N", "NJ", "NH", "D", "L", "LG", "LM", "LB", "LS", "LT", "LP", "LH", "M",
  "B", "BS", "S", "SS", "NG", "J", "C", "K", "T", "P", "H"]

/-- The longest sound at the front of a text, by its place, and the rest. -/
def takeSound (sounds : List String) (cs : List Char) : Option (Nat × List Char) :=
  let found := sounds.zipIdx.filter fun (s, _) => s.toList.isPrefixOf cs
  (found.foldl (fun best (s, i) =>
    match best with
    | some (length, _) => if length < s.length then some (s.length, i) else best
    | none => some (s.length, i)) none).map fun (length, i) => (i, cs.drop length)

def syllable? (cs : List Char) : Option Nat := do
  let (first, cs) ← takeSound initials cs
  let (middle, cs) ← takeSound vowels cs
  let (last, cs) ← takeSound finals cs
  if cs.isEmpty then some (0xac00 + (first * 21 + middle) * 28 + last) else none

end CharacterName

open CharacterName in
/-- The character of a name. Capitals and small letters are alike, except in the names of
syllables and unified ideographs. -/
def named? (cs : List Char) : Option Nat :=
  let syllable := "HANGUL SYLLABLE "
  let ideograph := "CJK UNIFIED IDEOGRAPH-"
  if syllable.toList.isPrefixOf cs then syllable? (cs.drop syllable.length)
  else if ideograph.toList.isPrefixOf cs then (numberAfter? ideograph cs).filter (within ideographs)
  else
    let name := cs.map Char.toUpper
    (inNumbered? name).orElse fun _ =>
      ((CharacterName.rows.findSome? fun rs => rs.findSome? (inRow? name)).orElse fun _ =>
        Table.CharacterName.other.findSome? (inOther? name))

end RuleReview.Text
