import RuleReview.Command.Runner
import RuleReview.CommandLine.Run

/-! The tool. It reads the current directory once, and then works with what it has read. Other
programs than those of its own and servers are out of its reach, so that reviews need a runner
and a client from elsewhere. -/

namespace RuleReview.Tool

partial def readTree (entries : Array IO.FS.DirEntry) : IO Tree := do
  let mut found : List (String × Tree) := []
  for e in entries do
    if ← e.path.isDir then
      found := found ++ [(e.fileName, ← readTree (← e.path.readDir))]
    else
      found := found ++ [(e.fileName, .file (← IO.FS.readBinFile e.path))]
  return .directory found

def readWorkspace : IO Workspace := do
  let directory ← IO.currentDir
  return ⟨Path.ofString directory.toString, ← readTree (← directory.readDir)⟩

/-- Causes in a few words. -/
def nameOf : Fault → String
  | .fileMissing => "no such file"
  | .isDirectory => "is a directory"
  | .notDirectory => "not a directory"
  | .nameTooLong => "name too long"
  | .undecodable => "malformed text"
  | .malformedJson => "malformed JSON"
  | .unreachable => "server not reachable"
  | .timedOut => "timed out"
  | f => if f.hasWords then f.message else "failed"

def client : Http.Client Unit where
  respond := fun _ _ => (.unreachable, ())
  share := fun s => (1, s)

def readWidth : IO Nat := do
  return ((← IO.getEnv "COLUMNS").bind String.toNat?).getD 80

/-- The text handed in, if the words ask for it. -/
def readInput (words : List String) : IO String := do
  if words.contains CommandLine.inputWord then
    return Text.Utf8.decodeLossy (← (← IO.getStdin).readBinToEnd)
  else return ""

/-- Carries out the words of a command line; the answer is the code of the run. -/
def carryOut (words : List String) : IO UInt32 := do
  let setting : CommandLine.Setting Unit := {
    workspace := ← readWorkspace
    input := ← readInput words
    width := ← readWidth
    runner := .ofProcess .default fun _ => .missing
    client
    nameOf
    words := fun _ => "malformed"
    hasContext := true }
  let token := (← IO.getEnv "GITHUB_TOKEN").filter (· != "")
  let (e, _, _) := CommandLine.run setting token words ⟨(), []⟩
  IO.print e.output
  IO.eprint (if e.misused then CommandLine.usage else e.errors)
  return UInt32.ofNat e.code

end RuleReview.Tool

def main (words : List String) : IO UInt32 := RuleReview.Tool.carryOut words
