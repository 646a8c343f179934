import RuleReview.Analyzer.Files
import RuleReview.Diff.Read
import RuleReview.Git
import RuleReview.Linter.Run
import RuleReview.Review.Comment
import RuleReview.Review.Marker
import RuleReview.Review.Sink

/-! Reviews of the files that two commits differ in. Issues on lines of the diff become
comments on their places, one for each place. If there are issues and none is on such a
line, one comment tells of all. A file that cannot be read or compared is left out. -/

namespace RuleReview.Review

/-- An issue of a file, and its place in the diff if it has one. -/
structure Finding where
  path : String
  issue : Issue
  position : Option Nat
  deriving DecidableEq, Repr

/-- A finding without its place in the diff. -/
def Finding.placed (f : Finding) : String × Issue := (f.path, f.issue)

structure Outcome where
  filesAnalyzed : Nat
  findings : List Finding
  commentsPosted : Nat := 0
  summaryPosted : Bool := false
  skipped : List String := []

def mapped (fs : List Finding) : List Finding := fs.filter (·.position.isSome)

/-! ### Findings -/

/-- What is reviewed: the files of a directory as they are, and the two commits. -/
structure Request where
  workspace : Workspace
  directory : Path
  base : String
  head : String

/-- Whether a cause only leaves a file out. -/
def skips : Command.Error → Bool
  | .git _ _ | .failed _ _ => true
  | .fault f => Analyzer.isPassedOver f

def readFile (r : Request) (runner : Command.Runner) (path : String) :
    LogM Command.Error (String × String) := do
  match r.workspace.readLossy (r.directory.join (Path.ofString path)) with
  | .error f => throw (.fault f)
  | .ok text => return (text, ← Git.fileDiff runner r.base r.head path)

def logSkipped {ε : Type} (path : String) (e : Command.Error) : LogM ε Unit :=
  match e with
  | .fault f => LogM.warnOf .review ("skipping " ++ path) f
  | e => LogM.warn .review (s!"skipping {path}: " ++ e.message)

def fileFindings (a : Analyzer) (path text diff : String) (extra : List Issue) :
    LogM Command.Error (List Finding) := do
  match Diff.read a.config.comments.countHunkHeaders diff with
  | .error f => throw (.fault f)
  | .ok d =>
    let r := a.analyze text.toList none (some path) extra
    LogM.add r.entry
    return r.issues.map fun i => ⟨path, i, d.positionOf? i.line⟩

/-- The findings of files and the files that were left out. -/
def collect (a : Analyzer) (r : Request) (runner : Command.Runner)
    (lint : List (String × List Issue)) :
    List String → LogM Command.Error (List (String × List Finding) × List String)
  | [] => return ([], [])
  | path :: paths => do
    match ← (readFile r runner path).attempt with
    | .ok (text, diff) =>
      let found ← fileFindings a path text diff ((Data.lookup path lint).getD [])
      let (files, skipped) ← collect a r runner lint paths
      return ((path, found) :: files, skipped)
    | .error e =>
      unless skips e do throw e
      logSkipped path e
      let (files, skipped) ← collect a r runner lint paths
      return (files, path :: skipped)

def supportedFiles (runner : Command.Runner) (r : Request) : LogM Command.Error (List String) := do
  return (← Git.changedFiles runner r.base r.head).filter fun p =>
    Language.isSupported (Path.ofString p)

def findAll (a : Analyzer) (r : Request) (runner : Command.Runner) :
    LogM Command.Error Outcome := do
  let files ← supportedFiles runner r
  let lint ← (Linter.run runner a.config.linters r.directory files).mapError .fault
  let (analyzed, skipped) ← collect a r runner lint files
  let findings := analyzed.flatMap (·.2)
  LogM.info .review (s!"{analyzed.length} file(s) analyzed, {findings.length} finding(s)")
  return { filesAnalyzed := analyzed.length, findings, skipped }

/-! ### Comments -/

structure Group where
  path : String
  position : Nat
  issues : List Issue
  deriving DecidableEq, Repr

/-- Adds a finding to those of its place. -/
def addToGroup (path : String) (position : Nat) (i : Issue) : List Group → List Group
  | [] => [⟨path, position, [i]⟩]
  | g :: gs =>
    if g.path = path ∧ g.position = position then { g with issues := g.issues ++ [i] } :: gs
    else g :: addToGroup path position i gs

/-- Whether a group may come before another: by path, then by position. -/
def Group.mayPrecede (a b : Group) : Bool :=
  decide (a.path < b.path) || (a.path == b.path && decide (a.position ≤ b.position))

/-- The findings by place, in the order of paths and positions. -/
def groups (fs : List Finding) : List Group :=
  (fs.foldl (fun gs f => match f.position with
    | some n => addToGroup f.path n f.issue gs
    | none => gs) []).mergeSort Group.mayPrecede

/-- The comment on a place, on the line of its first issue. -/
def Group.comment (g : Group) : Comment :=
  let line := (g.issues.head?.map (·.line)).getD 1
  let key := commentKey g.path line
  ⟨g.path, g.position, commentBody g.issues (Marker.ofComment key g.path line), key⟩

/-- Posts comments whose key is not there yet while fewer than `limit` were posted; the
answer is the number of comments posted. -/
def postEach (sink : Sink τ) (existing : List String) (limit : Int) (posted : Nat) :
    List Group → WorldM τ Fault Nat
  | [] => return posted
  | g :: gs => do
    if limit ≤ posted then
      WorldM.ofLog (LogM.info .review s!"comment limit ({limit}) reached")
      return posted
    let c := g.comment
    if existing.contains c.key then postEach sink existing limit posted gs
    else
      let taken ← sink.post c
      postEach sink existing limit (posted + taken.toNat) gs

def postPlaces (sink : Sink τ) (limit : Int) (fs : List Finding) : WorldM τ Fault Nat := do
  let gs := groups fs
  if gs.isEmpty then return 0
  let posted ← postEach sink (← sink.existing) limit 0 gs
  if posted ≠ 0 then
    WorldM.ofLog (LogM.info .review s!"Posted {posted} CodeSentry review comment(s).")
  return posted

/-- The text that tells findings apart from others. -/
def fingerprint (fs : List Finding) : String :=
  "\n".intercalate ((fs.map fun f => s!"{f.path}:{f.issue.line}:{f.issue.message}").mergeSort
    fun a b => decide (a ≤ b))

def postWhole (sink : Sink τ) (fs : List Finding) : WorldM τ Fault Bool := do
  let key := summaryKey (fingerprint fs)
  if (← sink.existing).contains key then return false
  let taken ← sink.postSummary (summaryBody (fs.map (·.placed)) (Marker.ofSummary key)) key
  if taken then
    WorldM.ofLog (LogM.info .review
      "No finding maps to a diff line; posted a summary comment.")
  return taken

def publish (sink : Sink τ) (limit : Int) (o : Outcome) : WorldM τ Fault Outcome := do
  if !o.findings.isEmpty && (mapped o.findings).isEmpty then
    return { o with summaryPosted := ← postWhole sink o.findings }
  else return { o with commentsPosted := ← postPlaces sink limit (mapped o.findings) }

/-- A review, with at most `limit` comments on places, or as many as are configured. -/
def run (a : Analyzer) (r : Request) (runner : Command.Runner) (sink : Sink τ)
    (limit : Option Int := none) : WorldM τ Command.Error Outcome := do
  let o ← WorldM.ofLog (findAll a r runner)
  (publish sink (limit.getD a.config.comments.maxComments) o).mapError .fault

end RuleReview.Review
