import RuleReview.Path
import RuleReview.Fault
import RuleReview.Text.Utf8

/-! A directory with all that is below it, and reading from it. There are no links. -/

namespace RuleReview

/-- A file or a directory. -/
inductive Tree
  | file (content : ByteArray)
  | directory (entries : List (String × Tree))

namespace Tree

def entry? (name : String) (entries : List (String × Tree)) : Option Tree :=
  Data.lookup name entries

def maxNameSize : Nat := 255

/-- What is found on the way along components; two points lead back to the directory
before, and the directories before are in reverse. -/
def walk : (before : List Tree) → Tree → List String → Except Fault Tree
  | _, t, [] => .ok t
  | before, t, part :: rest =>
    match t with
    | .file _ => .error .notDirectory
    | .directory entries =>
      if part == ".." then
        match before with
        | [] => .error .fileMissing
        | parent :: before => walk before parent rest
      else if maxNameSize < part.utf8ByteSize then .error .nameTooLong
      else match entry? part entries with
        | some below => walk (t :: before) below rest
        | none => .error .fileMissing

mutual

/-- The files below a place with their components from it on. -/
def files : Tree → List (List String)
  | .file _ => [[]]
  | .directory entries => filesOf entries

def filesOf : List (String × Tree) → List (List String)
  | [] => []
  | (name, t) :: rest => (files t).map (name :: ·) ++ filesOf rest

end

end Tree

/-- A directory of the file system, which is the current one, and where it is. -/
structure Workspace where
  root : Path
  tree : Tree

namespace Workspace

/-- The components of a path from the directory on; nothing else exists but the root. -/
def locate (w : Workspace) (p : Path) : Option (List String) :=
  match Path.below? w.root p with
  | some parts => some parts
  | none => if p.isAbsolute then none else some p.parts

/-- From how many bytes on a path is too long. -/
def pathLimit : Nat := 4096

def find (w : Workspace) (p : Path) : Except Fault Tree :=
  if p.parts.any fun part => part.toList.contains '\x00' then .error .nulInPath
  else if pathLimit ≤ p.toString.utf8ByteSize then .error .nameTooLong
  else match w.locate p with
    | some parts => Tree.walk [] w.tree parts
    | none => Tree.walk [] (.directory []) p.parts

def exists? (w : Workspace) (p : Path) : Bool := (w.find p).isOk

/-- What is at a path, if anything. A name that is too long cannot even be looked for. -/
def look (w : Workspace) (p : Path) : Except Fault (Option Tree) :=
  match w.find p with
  | .ok t => .ok (some t)
  | .error .nameTooLong => .error .nameTooLong
  | .error _ => .ok none

def isDirectory (w : Workspace) (p : Path) : Bool :=
  match w.find p with
  | .ok (.directory _) => true
  | _ => false

def isFile (w : Workspace) (p : Path) : Bool :=
  match w.find p with
  | .ok (.file _) => true
  | _ => false

def readBytes (w : Workspace) (p : Path) : Except Fault ByteArray :=
  match w.find p with
  | .ok (.file content) => .ok content
  | .ok (.directory _) => .error .isDirectory
  | .error f => .error f

def withLineFeeds (s : String) : String := String.ofList (Text.normalizeBreaks s.toList)

/-- The text of a file, with a replacement character for each malformed part. -/
def readLossy (w : Workspace) (p : Path) : Except Fault String :=
  (w.readBytes p).map fun b => withLineFeeds (Text.Utf8.decodeLossy b)

/-- The text of a file that has to be well-formed. -/
def readText (w : Workspace) (p : Path) : Except Fault String :=
  match w.readBytes p with
  | .error f => .error f
  | .ok b =>
    match Text.Utf8.decode? b with
    | some s => .ok (withLineFeeds s)
    | none => .error .undecodable

/-- Directories whose files are not looked at. -/
def vendored : List String := ["node_modules", "venv", "__pycache__", "dist", "build", "bin", "obj"]

/-- Whether a directory is passed over: hidden or vendored. -/
def isPassedOver (name : String) : Bool := name.toList.head? == some '.' || vendored.contains name

/-- Order of paths: that of their first different component. -/
def orderedParts (p q : List String) : Bool := !List.lex q p fun a b => decide (a < b)

/-- The files below a place that have one of the extensions, in the order of their
components. Directories from the place on must not be passed over. -/
def sourcesOf (extensions : List String) (t : Tree) : List (List String) :=
  (t.files.filter fun parts =>
    !(parts.dropLast.any isPassedOver)
      && extensions.contains (Text.toLower (Path.suffixOf (parts.getLast?.getD "")))).mergeSort
    orderedParts

/-- The source files below a path, or the path itself where it is a file. -/
def sources (w : Workspace) (root : Path) (extensions : List String) : List Path :=
  match w.find root with
  | .ok (.file _) => [root]
  | .ok t => (sourcesOf (extensions.map Text.toLower) t).map fun parts => root.join ⟨"", parts⟩
  | .error _ => []

end Workspace

end RuleReview
