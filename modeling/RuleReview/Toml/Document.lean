import RuleReview.Toml.Value

/-! Configuration files as a whole: lines that open a table, lines that add a table to a
list of tables, and lines that give a key of the open table a value. A table is opened
once, and a value is never taken back. -/

namespace RuleReview.Toml

/-- What has been read: the members, the key of the open table, the tables that may not
be opened, those that may not be after the next header, and the values that are closed. -/
structure Document where
  members : List (String × Data) := []
  header : Key := []
  closed : List Key := []
  pending : List Key := []
  frozen : List Key := []

namespace Document

/-- Tables that dotted keys have led through are closed by the next header. -/
def settle (d : Document) : Document := { d with closed := d.pending ++ d.closed, pending := [] }

def openTable (d : Document) (key : Key) : Except ReadError Document := do
  if d.closed.contains key || coveredBy d.frozen key then throw .malformed
  let some members := updateTable true some key d.members | throw .malformed
  return { d with members, header := key, closed := key :: d.closed }

/-- Adds a table to a list of tables. Tables opened below an earlier one are free again. -/
def openItem (d : Document) (key : Key) : Except ReadError Document := do
  if coveredBy d.frozen key then throw .malformed
  let isFree (k : Key) : Bool := !key.isPrefixOf k
  let last := key.getLast?.getD ""
  let append (ms : List (String × Data)) : Option (List (String × Data)) :=
    match Data.lookup last ms with
    | none => some (Data.assign last (.list [.object []]) ms)
    | some (.list xs) => some (Data.assign last (.list (xs ++ [.object []])) ms)
    | some _ => none
  let some members := updateTable true append key.dropLast d.members | throw .malformed
  return { d with
    members, header := key
    closed := key :: d.closed.filter isFree
    frozen := d.frozen.filter isFree }

/-- The keys that lead to a key, the shortest first, without the key itself. -/
def leading (header key : Key) : List Key :=
  (List.range (key.length - 1)).map fun i => header ++ key.take (i + 1)

/-- Gives a key of the open table a value. -/
def add (d : Document) (key : Key) (value : Data) : Except ReadError Document := do
  let through := leading d.header key
  if through.any d.closed.contains then throw .malformed
  let parent := d.header ++ key.dropLast
  if coveredBy d.frozen parent then throw .malformed
  let some members := updateTable true (addNew (key.getLast?.getD "") value) parent d.members
    | throw .malformed
  return { d with
    members
    pending := through ++ d.pending
    frozen := if isNest value then (d.header ++ key) :: d.frozen else d.frozen }

/-- A header after its brackets, and the text after the closing ones. -/
def readHeader (d : Document) : List Char → Except ReadError (Document × List Char)
  | '[' :: cs => do
    let (key, rest) ← readKey (cs.length + 1) (skipGaps cs)
    let d ← d.settle.openItem key
    match rest with
    | ']' :: ']' :: rest => return (d, rest)
    | _ => throw .malformed
  | cs => do
    let (key, rest) ← readKey (cs.length + 1) (skipGaps cs)
    let d ← d.settle.openTable key
    match rest with
    | ']' :: rest => return (d, rest)
    | _ => throw .malformed

def readLine (d : Document) : List Char → Except ReadError (Document × List Char)
  | [] => .ok (d, [])
  | '\n' :: cs => .ok (d, '\n' :: cs)
  | '#' :: cs => .ok (d, '#' :: cs)
  | '[' :: cs => d.readHeader cs
  | cs => do
    let (key, value, rest) ← readPair (2 * cs.length + 2) maxRoom cs
    return (← d.add key value, rest)

def readLines : (fuel : Nat) → Document → List Char → Except ReadError Document
  | 0, d, _ => .ok d
  | fuel + 1, d, cs => do
    let (d, rest) ← d.readLine (skipGaps cs)
    match ← skipComment (skipGaps rest) with
    | [] => return d
    | '\n' :: rest => readLines fuel d rest
    | _ => throw .malformed

end Document

/-- The members of a configuration file. -/
def read (s : String) : Except ReadError (List (String × Data)) :=
  (Document.readLines (s.length + 1) {} s.toList).map (·.members)

end RuleReview.Toml
