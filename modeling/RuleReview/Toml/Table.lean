import RuleReview.Data
import RuleReview.Toml.Text

/-! Tables of configuration files under dotted keys, which are parts with points between them. -/

namespace RuleReview.Toml

/-! ### Keys -/

abbrev Key := List String

/-- Characters of a key without marks. -/
def isBare (c : Char) : Bool := c.isAlphanum || c == '-' || c == '_'

def readKeyPart : List Char → Except ReadError (String × List Char)
  | '\'' :: cs => readLiteral cs
  | '"' :: cs => readBasic (cs.length + 1) [] cs
  | cs =>
    let s := cs.takeWhile isBare
    if s.isEmpty then .error .malformed else .ok (String.ofList s, cs.dropWhile isBare)

/-- A dotted key and the blanks after it. -/
def readKey : (fuel : Nat) → List Char → Except ReadError (Key × List Char)
  | 0, _ => .error .malformed
  | fuel + 1, cs => do
    let (part, rest) ← readKeyPart cs
    match skipGaps rest with
    | '.' :: rest =>
      let (parts, rest) ← readKey fuel (skipGaps rest)
      return (part :: parts, rest)
    | rest => return ([part], rest)

/-! ### Tables -/

/-- Changes the table at a key, making the tables on the way. Where `lists` allows it, a
list of tables stands for its last one. Any other value on the way is in the way. -/
def updateTable (lists : Bool) (f : List (String × Data) → Option (List (String × Data))) :
    Key → List (String × Data) → Option (List (String × Data))
  | [], ms => f ms
  | k :: ks, ms =>
    match Data.lookup k ms with
    | none => (updateTable lists f ks []).map fun m => Data.assign k (.object m) ms
    | some (.object inner) =>
      (updateTable lists f ks inner).map fun m => Data.assign k (.object m) ms
    | some (.list xs) =>
      match lists, xs.getLast? with
      | true, some (.object inner) =>
        (updateTable lists f ks inner).map fun m =>
          Data.assign k (.list (xs.dropLast ++ [.object m])) ms
      | _, _ => none
    | some _ => none

/-- Puts a value under a key that has none. -/
def addNew (k : String) (d : Data) (ms : List (String × Data)) : Option (List (String × Data)) :=
  if (Data.lookup k ms).isSome then none else some (Data.assign k d ms)

def isNest : Data → Bool
  | .list _ | .object _ => true
  | _ => false

/-- Whether one of the keys is a key or leads to it. -/
def coveredBy (keys : List Key) (key : Key) : Bool := keys.any (·.isPrefixOf key)

end RuleReview.Toml
