import RuleReview.Data
import RuleReview.Decimal.Shortest
import RuleReview.Text.Quoted

/-! Writing JSON with ASCII characters alone: compact, or one member or item a line
with an indent of two blanks a level. -/

namespace RuleReview.Json

def unitEscape (u : Nat) : List Char := '\\' :: 'u' :: Text.hexDigits u 4

/-- A character inside a text; one past the first plane is a pair of surrogates. -/
def escapeChar (c : Char) : List Char :=
  if c = '"' then ['\\', '"']
  else if c = '\\' then ['\\', '\\']
  else if c = '\n' then ['\\', 'n']
  else if c = '\r' then ['\\', 'r']
  else if c = '\t' then ['\\', 't']
  else if c = '\x0c' then ['\\', 'f']
  else if c = '\x08' then ['\\', 'b']
  else if 0x20 ≤ c.val ∧ c.val < 0x7f then [c]
  else if c.toNat < 0x10000 then unitEscape c.toNat
  else
    let u := c.toNat - 0x10000
    unitEscape (0xd800 + u / 0x400) ++ unitEscape (0xdc00 + u % 0x400)

def writeText (s : String) : String :=
  String.ofList ('"' :: s.toList.flatMap escapeChar ++ ['"'])

def writeReal : Decimal.Binary64 → String
  | .infinity false => "Infinity"
  | .infinity true => "-Infinity"
  | .notANumber => "NaN"
  | x => x.text

/-- A value without parts. -/
def writeScalar : Data → String
  | .boolean true => "true"
  | .boolean false => "false"
  | .integer n => toString n
  | .real x => writeReal x
  | .text s => writeText s
  | _ => "null"

/-- The parts of a value between brackets, each on a line of its own unless the layout is
compact; `level` counts the brackets around them. -/
def bracket (compact : Bool) (level : Nat) (left right : String) (parts : List String) : String :=
  if parts.isEmpty then left ++ right
  else if compact then left ++ ", ".intercalate parts ++ right
  else
    let gap (n : Nat) : String := String.ofList ('\n' :: List.replicate (2 * n) ' ')
    left ++ gap (level + 1) ++ ("," ++ gap (level + 1)).intercalate parts ++ gap level ++ right

mutual

def writeValue (compact : Bool) (level : Nat) : Data → String
  | .list xs => bracket compact level "[" "]" (writeItems compact (level + 1) xs)
  | .object ms => bracket compact level "\x7b" "\x7d" (writeMembers compact (level + 1) ms)
  | d => writeScalar d

def writeItems (compact : Bool) (level : Nat) : List Data → List String
  | [] => []
  | x :: xs => writeValue compact level x :: writeItems compact level xs

def writeMembers (compact : Bool) (level : Nat) : List (String × Data) → List String
  | [] => []
  | (k, x) :: ms =>
    (writeText k ++ ": " ++ writeValue compact level x) :: writeMembers compact level ms

end

def compact (d : Data) : String := writeValue true 0 d

def pretty (d : Data) : String := writeValue false 0 d

end RuleReview.Json
