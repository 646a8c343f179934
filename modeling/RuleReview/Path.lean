import RuleReview.Text.Lines
import RuleReview.Text.Case

/-! Paths with slashes. Empty components and single points have no effect and are
dropped; two points are kept, since they name a directory of the file system. -/

namespace RuleReview

/-- A root of slashes, empty for a relative path, and the components after it. -/
structure Path where
  root : String
  parts : List String
  deriving DecidableEq, Repr

namespace Path

/-- The root of a text: one slash, or exactly two. -/
def rootOf (cs : List Char) : String :=
  match cs.takeWhile (· == '/') with
  | [] => ""
  | ['/', '/'] => "//"
  | _ => "/"

def ofString (s : String) : Path :=
  ⟨rootOf s.toList, (Text.split '/' s).filter fun p => p != "" && p != "."⟩

/-- The text of a path; the path without any component is a point. -/
def toString (p : Path) : String :=
  if p.root == "" && p.parts.isEmpty then "." else p.root ++ "/".intercalate p.parts

/-- Whether a path starts at the root. -/
def isAbsolute (p : Path) : Bool := p.root != ""

def name (p : Path) : String := p.parts.getLast?.getD ""

/-- The last point of a name and what follows it, unless the point comes first or last. -/
def suffixOf (name : String) : String :=
  let cs := name.toList.reverse
  let tail := cs.takeWhile (· != '.')
  let front := (cs.dropWhile (· != '.')).drop 1
  if tail.isEmpty || front.isEmpty then "" else String.ofList ('.' :: tail.reverse)

/-- The ending of the last component. -/
def suffix (p : Path) : String := suffixOf p.name

/-- The ending of the last component in small letters. -/
def extension (p : Path) : String := Text.toLower p.suffix

/-- A path taken from another one on, unless it starts at the root. -/
def join (p q : Path) : Path := if q.isAbsolute then q else ⟨p.root, p.parts ++ q.parts⟩

/-- Components with every two points taken back together with the component before
them, as far as there is one; `before` is in reverse. -/
def climb (before : List String) : List String → List String
  | [] => before.reverse
  | ".." :: rest => climb (before.drop 1) rest
  | part :: rest => climb (part :: before) rest

/-- An absolute path without two points, on a file system without links. -/
def resolve (p : Path) : Path := ⟨"/", climb [] p.parts⟩

def below? (root p : Path) : Option (List String) :=
  if p.root == root.root && root.parts.isPrefixOf p.parts then
    some (p.parts.drop root.parts.length)
  else none

/-- One name per file: relative to the root for what lies below it, else as given. -/
def relativeTo (root p : Path) : String :=
  match below? root.resolve ((root.join p).resolve) with
  | some parts => (Path.mk "" parts).toString
  | none => p.toString

end Path

end RuleReview
