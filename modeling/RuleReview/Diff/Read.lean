import RuleReview.Diff
import RuleReview.Fault
import RuleReview.Text.Lines
import RuleReview.Text.Search

/-! Reading unified diffs. A hunk takes as many lines as its header says, so that lines in
it are never taken for headers; a line about a missing end of line takes no place. A diff
is first read line by line into pieces, and the pieces then give paths and hunks. -/

namespace RuleReview.Diff

/-- What a line of a diff is: the header of a hunk, a line of a hunk, or anything outside
the hunks. -/
inductive Piece
  | opening (range : Range) (header : List Char)
  | body (kind : Kind) (text : List Char)
  | outside (text : List Char)
  deriving DecidableEq, Repr

/-! ### Headers -/

/-- A start, the count after a comma where there is one, and the rest. -/
def takeSide? (cs : List Char) : Option ((List Char × Option (List Char)) × List Char) := do
  let (start, rest) ← Text.takeRun? Text.isDecimal cs
  match rest with
  | ',' :: more =>
    let (count, rest) ← Text.takeRun? Text.isDecimal more
    return ((start, some count), rest)
  | _ => return ((start, none), rest)

/-- The digits in the header of a hunk, old side first. -/
def headerDigits? (cs : List Char) :
    Option ((List Char × Option (List Char)) × (List Char × Option (List Char))) := do
  let (old, rest) ← takeSide? (← Text.takeFront? "@@ -".toList cs)
  let (new, rest) ← takeSide? (← Text.takeFront? " +".toList rest)
  let _ ← Text.takeFront? " @@".toList rest
  return (old, new)

def readNumber (ds : List Char) : Except Fault Nat :=
  (Decimal.readDigits ds).mapError Fault.ofInteger

/-- The range in the header of a hunk, none for any other line. A count that is not
written is one. -/
def readRange? (cs : List Char) : Except Fault (Option Range) :=
  match headerDigits? cs with
  | none => .ok none
  | some (old, new) => do
    let oldStart ← readNumber old.1
    let oldCount ← readNumber (old.2.getD ['1'])
    let newStart ← readNumber new.1
    let newCount ← readNumber (new.2.getD ['1'])
    return some ⟨oldStart, oldCount, newStart, newCount⟩

/-! ### Lines -/

/-- What a line of a hunk is and its text; none for a remark about a missing end of line.
An empty line is one of both versions. -/
def readBody? : List Char → Option (Kind × List Char)
  | '\\' :: _ => none
  | '+' :: text => some (.added, text)
  | '-' :: text => some (.removed, text)
  | cs => some (.context, cs.drop 1)

/-- The pieces of lines, while an open hunk still takes some on either side. -/
def pieces (oldLeft newLeft : Nat) : List (List Char) → Except Fault (List Piece)
  | [] => .ok []
  | cs :: rest =>
    if 0 < oldLeft || 0 < newLeft then
      match readBody? cs with
      | none => pieces oldLeft newLeft rest
      | some (kind, text) => do
        let more ← pieces (oldLeft - kind.isOld.toNat) (newLeft - kind.isNew.toNat) rest
        return .body kind text :: more
    else do
      match ← readRange? cs with
      | some range => return .opening range cs :: (← pieces range.oldCount range.newCount rest)
      | none => return .outside cs :: (← pieces 0 0 rest)

/-! ### Paths -/

/-- The path after the marks of a version: up to a tab, without the letter of the side,
and none where that version does not exist. -/
def readPath? (cs : List Char) : Option (List Char) :=
  match (Text.trim cs).takeWhile (· != '\t') with
  | 'a' :: '/' :: path => some path
  | 'b' :: '/' :: path => some path
  | path => if path = "/dev/null".toList then none else some path

/-- A text cut at the first separator after its first character, if anything follows. -/
def cutAfterFirst? (separator : List Char) : List Char → Option (List Char × List Char)
  | [] => none
  | c :: cs =>
    match Text.takeFront? separator cs with
    | some (d :: ds) => some ([c], d :: ds)
    | _ => (cutAfterFirst? separator cs).map fun (l, r) => (c :: l, r)

/-- The two paths in the first line about a file. -/
def titlePaths? (cs : List Char) : Option (List Char × List Char) :=
  (Text.takeFront? "diff --git a/".toList cs).bind (cutAfterFirst? " b/".toList)

/-- A path, or another one where it is missing or empty. -/
def orElse (path : Option (List Char)) (other : List Char) : Option (List Char) :=
  match path with
  | none | some [] => some other
  | p => p

/-- The paths, the old one first, after a line outside the hunks. -/
def readPaths (paths : Option (List Char) × Option (List Char)) (cs : List Char) :
    Option (List Char) × Option (List Char) :=
  match Text.takeFront? "--- ".toList cs with
  | some old => (readPath? old, paths.2)
  | none =>
    match Text.takeFront? "+++ ".toList cs with
    | some new => (paths.1, readPath? new)
    | none =>
      match titlePaths? cs with
      | some (old, new) => (orElse paths.1 old, orElse paths.2 new)
      | none => paths

/-- The paths that pieces tell, the old one first. -/
def pathsOf (ps : List Piece) : Option (List Char) × Option (List Char) :=
  ps.foldl (fun paths p => match p with
    | .outside cs => readPaths paths cs
    | _ => paths) (none, none)

/-! ### Hunks -/

/-- The lines up to the next header of a hunk. -/
def bodyOf : List Piece → List (Kind × List Char)
  | [] => []
  | .opening _ _ :: _ => []
  | .body kind text :: rest => (kind, text) :: bodyOf rest
  | .outside _ :: rest => bodyOf rest

/-- The hunks of pieces. Positions are counted on from the given one; a header that is not
the first may take a position of its own. -/
def hunksOf (countHeaders first : Bool) (position : Nat) : List Piece → List Hunk
  | [] => []
  | .opening range header :: rest =>
    let position := if countHeaders && !first then position + 1 else position
    let body := bodyOf rest
    { header, range, lines := number range.oldStart range.newStart position body } ::
      hunksOf countHeaders false (position + body.length) rest
  | _ :: rest => hunksOf countHeaders first position rest

def ofPieces (countHeaders : Bool) (ps : List Piece) : Diff where
  path := (pathsOf ps).2
  oldPath := (pathsOf ps).1
  hunks := hunksOf countHeaders true 0 ps

/-- The diff that a text gives. Only a number of too many digits stops reading. -/
def read (countHeaders : Bool) (text : String) : Except Fault Diff :=
  (pieces 0 0 (Text.breakLines text.toList)).map (ofPieces countHeaders)

end RuleReview.Diff
