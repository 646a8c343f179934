/-! Unified diffs of one file. Every line of a hunk has its number on each side it belongs
to and a position, which counts the lines of all hunks from one. -/

namespace RuleReview

namespace Diff

/-- To which versions of a file a line belongs: both, the new one or the old one. -/
inductive Kind
  | context
  | added
  | removed
  deriving DecidableEq, Repr

def Kind.name : Kind → String
  | .context => "context"
  | .added => "added"
  | .removed => "removed"

/-- Whether a line belongs to the old version. -/
def Kind.isOld : Kind → Bool
  | .added => false
  | _ => true

/-- Whether a line belongs to the new version. -/
def Kind.isNew : Kind → Bool
  | .removed => false
  | _ => true

structure Line where
  kind : Kind
  text : List Char
  oldLine : Option Nat
  newLine : Option Nat
  position : Nat
  deriving DecidableEq, Repr

/-- Where a hunk starts on either side, and how many lines it has there. -/
structure Range where
  oldStart : Nat
  oldCount : Nat
  newStart : Nat
  newCount : Nat
  deriving DecidableEq, Repr

/-- A stretch of lines under a header. -/
structure Hunk where
  header : List Char
  range : Range
  lines : List Line
  deriving DecidableEq, Repr

end Diff

/-- Two versions of a file compared: their paths, and the stretches that differ. -/
structure Diff where
  path : Option (List Char) := none
  oldPath : Option (List Char) := none
  hunks : List Diff.Hunk := []
  deriving DecidableEq, Repr

namespace Diff

def lines (d : Diff) : List Line := d.hunks.flatMap (·.lines)

/-- The position of the first line with a number on the new side. -/
def positionOf? (d : Diff) (line : Nat) : Option Nat :=
  (d.lines.find? (·.newLine == some line)).map (·.position)

/-- Lines of a hunk with their numbers, counted on from the given ones, and positions
after the given one. -/
def number (oldLine newLine position : Nat) : List (Kind × List Char) → List Line
  | [] => []
  | (kind, text) :: rest =>
    { kind, text
      oldLine := if kind.isOld then some oldLine else none
      newLine := if kind.isNew then some newLine else none
      position := position + 1 } ::
    number (oldLine + kind.isOld.toNat) (newLine + kind.isNew.toNat) (position + 1) rest

@[simp] theorem length_number (oldLine newLine position : Nat) (body : List (Kind × List Char)) :
    (number oldLine newLine position body).length = body.length := by
  induction body generalizing oldLine newLine position with
  | nil => rfl
  | cons e body ih => simp [number, ih]

end Diff

end RuleReview
