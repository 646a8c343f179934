import RuleReview.Toml.Moment
import RuleReview.Toml.Number
import RuleReview.Toml.Table

/-! Values of configuration files, arrays over several lines and tables on one line among
them. These stand in each other as far as there is room. -/

namespace RuleReview.Toml

/-- A date, a time or a number. -/
def readPlain (cs : List Char) : Except ReadError (Data × List Char) :=
  match pastDate cs with
  | some (true, rest) => .ok (.moment, rest)
  | some (false, _) => .error .malformed
  | none =>
    match pastTime cs with
    | some rest => .ok (.moment, rest)
    | none => readNumber cs

def maxRoom : Nat := 990

/-- The room that is left by a value with parts, which takes some of it. -/
def roomAfter (taken room : Nat) : Except ReadError Nat :=
  if room < taken then .error .tooDeep else .ok (room - taken)

mutual

/-- A value. An array takes two parts of the room, and a table takes three. -/
def readValue : (fuel room : Nat) → List Char → Except ReadError (Data × List Char)
  | 0, _, _ => .error .malformed
  | fuel + 1, room, cs =>
    match cs with
    | '"' :: '"' :: '"' :: rest => do
      let rest := dropBreak rest
      let r ← readBasicLines (rest.length + 1) [] rest
      let (s, rest) := closeLines '"' r
      return (.text s, rest)
    | '"' :: rest => do
      let (s, rest) ← readBasic (rest.length + 1) [] rest
      return (.text s, rest)
    | '\'' :: '\'' :: '\'' :: rest => do
      let r ← readLiteralLines [] (dropBreak rest)
      let (s, rest) := closeLines '\'' r
      return (.text s, rest)
    | '\'' :: rest => do
      let (s, rest) ← readLiteral rest
      return (.text s, rest)
    | 't' :: 'r' :: 'u' :: 'e' :: rest => .ok (.boolean true, rest)
    | 'f' :: 'a' :: 'l' :: 's' :: 'e' :: rest => .ok (.boolean false, rest)
    | '[' :: rest => do
      let room ← roomAfter 2 room
      let (xs, rest) ← readItems fuel room (← skipLines rest.length rest)
      return (.list xs, rest)
    | '\x7b' :: rest => do
      let room ← roomAfter 3 room
      match skipGaps rest with
      | '\x7d' :: rest => return (.object [], rest)
      | rest =>
        let (ms, rest) ← readInline fuel room [] [] rest
        return (.object ms, rest)
    | cs => readPlain cs

/-- The items of an array up to its bracket; a comma may stand before the bracket. -/
def readItems : (fuel room : Nat) → List Char → Except ReadError (List Data × List Char)
  | 0, _, _ => .error .malformed
  | fuel + 1, room, cs =>
    match cs with
    | ']' :: rest => .ok ([], rest)
    | cs => do
      let (x, rest) ← readValue fuel room cs
      match ← skipLines rest.length rest with
      | ']' :: rest => return ([x], rest)
      | ',' :: rest =>
        let (xs, rest) ← readItems fuel room (← skipLines rest.length rest)
        return (x :: xs, rest)
      | _ => .error .malformed

/-- The members of a table on one line up to its brace. `frozen` holds the keys of lists
and tables that may not be added to. -/
def readInline : (fuel room : Nat) → (frozen : List Key) → List (String × Data) → List Char →
    Except ReadError (List (String × Data) × List Char)
  | 0, _, _, _, _ => .error .malformed
  | fuel + 1, room, frozen, ms, cs => do
    let (key, value, rest) ← readPair fuel room cs
    if coveredBy frozen key then throw .malformed
    let some ms := updateTable false (addNew (key.getLast?.getD "") value) key.dropLast ms
      | throw .malformed
    match skipGaps rest with
    | '\x7d' :: rest => return (ms, rest)
    | ',' :: rest =>
      readInline fuel room (if isNest value then key :: frozen else frozen) ms (skipGaps rest)
    | _ => .error .malformed

def readPair : (fuel room : Nat) → List Char → Except ReadError (Key × Data × List Char)
  | 0, _, _ => .error .malformed
  | fuel + 1, room, cs => do
    let (key, rest) ← readKey (cs.length + 1) cs
    match rest with
    | '=' :: rest =>
      let (d, rest) ← readValue fuel room (skipGaps rest)
      return (key, d, rest)
    | _ => .error .malformed

end

end RuleReview.Toml
