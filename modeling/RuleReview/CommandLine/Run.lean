import RuleReview.Analyzer.Files
import RuleReview.CommandLine.Order
import RuleReview.Config.Table
import RuleReview.Console.Table
import RuleReview.Report.Json
import RuleReview.Report.Markdown
import RuleReview.Report.Terminal
import RuleReview.Review.PullRequest
import RuleReview.Review.Run

/-! Carrying out orders. What is printed stays printed when a task stops. -/

namespace RuleReview.CommandLine

/-- What a task works with: files, a text handed in, a console, other programs, a server, names for
causes that have no words of their own, and what is said of a text that is no TOML. A task finds the
options before its command only where the reader of the command line has a context for it. -/
structure Setting (σ : Type) where
  workspace : Workspace
  input : String
  width : Nat
  runner : Command.Runner
  client : Http.Client σ
  nameOf : Fault → String
  words : String → String
  hasContext : Bool

/-- A server, and what was printed so far. -/
structure Session (σ : Type) where
  connection : Http.Connection σ
  printed : String := ""

/-- Why a task stops: it is not understood, it complains, or something breaks down. -/
inductive Stop
  | misused
  | complained (code : Nat) (text : String)
  | broken (e : Command.Error)
  deriving DecidableEq, Repr

abbrev TaskM (σ : Type) := WorldM (Session σ) Stop

variable {σ : Type}

/-! ### Printing -/

def write (text : String) : TaskM σ Unit :=
  WorldM.use fun s => ((), { s with printed := s.printed ++ text })

def print (ls : Console.Lines) : TaskM σ Unit := write (Console.page ls)

/-- Stops for tags that do not match. -/
def refuse (e : Console.Markup.Error) : Stop := .broken (.fault (.ofMarkup e))

def printRead (ls : Except Console.Markup.Error Console.Lines) : TaskM σ Unit :=
  match ls with
  | .ok ls => print ls
  | .error e => throw (refuse e)

def complain {α : Type} (s : Setting σ) (code : Nat) (text : String) : TaskM σ α :=
  match Console.marked s.width text with
  | .ok ls => throw (.complained code (Console.page ls))
  | .error e => throw (refuse e)

/-! ### Input -/

def loadConfig (s : Setting σ) (project : Path) : TaskM σ Config :=
  match Config.load s.words s.workspace project with
  | .ok c => return c
  | .error (.invalid e) => complain s 2 ("Invalid configuration: " ++ e.message)
  | .error (.fault f) => throw (.broken (.fault f))

def loadAnalyzer (s : Setting σ) (project : Path) : TaskM σ Analyzer := do
  let config ← loadConfig s project
  (WorldM.ofLog (Analyzer.build s.workspace config)).mapError fun f => .broken (.fault f)

/-- The word that stands for the text handed in. -/
def inputWord : String := "-"

/-- The name that a text is shown by, the text, and its path if it is of a file. -/
def readText (s : Setting σ) (path : String) : TaskM σ (String × String × Option String) :=
  if path == inputWord then return ("<stdin>", Workspace.withLineFeeds s.input, none)
  else match s.workspace.readLossy (Path.ofString path) with
    | .ok text => return (path, text, some path)
    | .error f => throw (if Analyzer.isPassedOver f then .misused else .broken (.fault f))

/-! ### Analysis -/

/-- The reports on the files of a directory, which are shown by their paths in it. -/
def directoryReports (s : Setting σ) (a : Analyzer) (workers : Nat) (directory : Path) :
    TaskM σ (List Report) := do
  let files := s.workspace.sources directory Language.allExtensions
  let found ← (WorldM.ofLog (a.analyzeFiles s.workspace workers [] files)).mapError
    fun f => .broken (.fault f)
  return (Analyzer.analyzed found).map fun (p, r) =>
    ⟨(Path.mk "" (p.parts.drop directory.parts.length)).toString, r⟩

def reports (s : Setting σ) (a : Analyzer) (workers : Nat) (path : String)
    (language : Option String) : TaskM σ (List Report) := do
  let there ← if path == inputWord then pure none
    else match s.workspace.look (Path.ofString path) with
      | .ok there => pure there
      | .error f => throw (.broken (.fault f))
  match there with
  | some (.directory _) => directoryReports s a workers (Path.ofString path)
  | _ =>
    let (name, text, file) ← readText s path
    let r := a.analyze text.toList language file
    WorldM.ofLog (LogM.add r.entry)
    return [⟨name, r⟩]

/-- The name of a format without blanks at its ends, in small letters. -/
def formatKey (format : String) : String := Text.toLower (Text.strip format)

/-- Whether a terminal shows more of reports than figures, which is all of a run known to be
quiet. -/
def showsDetails (s : Setting σ) (v : Log.Verbosity) : Bool := !(s.hasContext && v == .quiet)

def printReports (s : Setting σ) (v : Log.Verbosity) (format : String) (rs : List Report) :
    TaskM σ Unit := do
  match formatKey format with
  | "terminal" =>
    let p := Report.terminal s.width (showsDetails s v) rs
    print p.lines
    if let some e := p.refusal then throw (refuse e)
  | "json" => print [Report.json rs]
  | "markdown" => print [Report.markdown rs]
  | _ => throw .misused

/-- Analyzes what is at a path. Issues that are grave enough make the run fail. -/
def analyze (s : Setting σ) (o : Order) (t : AnalysisOrder) : TaskM σ Unit := do
  let a ← loadAnalyzer s o.project
  let rs ← reports s a t.workers t.path t.language
  printReports s o.verbosity t.format rs
  if let some threshold := t.failOn then
    let grave := rs.flatMap fun r => Issue.atOrAbove threshold r.analysis.issues
    unless grave.isEmpty do
      complain s 1 s!"{grave.length} issue(s) at or above {threshold.name}."

/-! ### Rules -/

def ruleRows (a : Analyzer) : List (Rule.Collection × Rule.Category) :=
  a.collections.flatMap fun c => (c.walk.filter (!·.rules.isEmpty)).map (c, ·)

def rowData (c : Rule.Collection) (k : Rule.Category) : Data := .object [
  ("collection", .text c.name), ("kind", .text c.kind.name), ("category", .text k.key),
  ("title", .text k.title), ("severity", .text k.severity.name),
  ("patterns", .integer k.rules.length)]

def rulesTable (rows : List (Rule.Collection × Rule.Category)) : Console.Table where
  title := "CodeSentry Rules"
  columns := [⟨"Collection", .left⟩, ⟨"Kind", .left⟩, ⟨"Category", .left⟩, ⟨"Severity", .left⟩,
    ⟨"Patterns", .right⟩]
  rows := rows.map fun (c, k) =>
    [c.name, c.kind.name, k.title, k.severity.name, toString k.rules.length]

def listRules (s : Setting σ) (o : Order) (format : String) : TaskM σ Unit := do
  let rows := ruleRows (← loadAnalyzer s o.project)
  match formatKey format with
  | "json" => print [Json.pretty (.list (rows.map fun (c, k) => rowData c k))]
  | "terminal" =>
    printRead (Console.Table.render s.width (rulesTable rows))
    let count := total (rows.map fun (_, k) => k.rules.length)
    print (Console.literal s.width s!"Total: {count} pattern(s)")
  | _ => throw .misused

/-! ### Languages and positions -/

/-- Tells the language and the frameworks of a text. -/
def detect (s : Setting σ) (o : Order) (path format : String) : TaskM σ Unit := do
  let config ← loadConfig s o.project
  let (name, text, file) ← readText s path
  let language := Language.resolve text.toList none file config.defaultLanguage
  let frameworks := Language.frameworks text.toList file
  if formatKey format == "json" then
    print [Json.pretty (.object [("path", .text name), ("language", .text language),
      ("frameworks", .list (frameworks.map .text))])]
  else
    let more := if frameworks.isEmpty then "" else " (" ++ ", ".intercalate frameworks ++ ")"
    printRead (Console.marked s.width s!"{name}: [bold]{language}[/bold]{more}")

def tellPosition (s : Setting σ) (o : Order) (file : Path) (line : Int)
    (countHeaders : Option Bool) : TaskM σ Unit := do
  let config ← loadConfig s o.project
  match (s.workspace.readLossy file).bind
      (Diff.read (countHeaders.getD config.comments.countHunkHeaders)) with
  | .error f => throw (.broken (.fault f))
  | .ok d =>
    match d.positionOf? line.toNat with
    | some n => print [toString n]
    | none => complain s 1 s!"Line {line} is not part of the diff."

/-! ### Reviews -/

def printComments (s : Setting σ) (kept : Review.Recorded) : TaskM σ Unit := do
  for c in kept.comments do
    printRead (Console.rule s.width s!"{c.path} (position {c.position})")
    print (Console.pictured s.width c.body)
  for body in kept.summaries do
    printRead (Console.rule s.width "summary")
    print (Console.pictured s.width body)

/-- A failure of the version control system makes the task complain. -/
def orComplain {α : Type} (s : Setting σ) (what : String) (m : TaskM σ (Except Command.Error α)) :
    TaskM σ α := do
  match ← m with
  | .ok a => return a
  | .error (.git message _) => complain s 2 s!"{what}: {message}"
  | .error e => throw (.broken e)

/-- A review whose comments are printed. -/
def dryReview (s : Setting σ) (a : Analyzer) (r : Review.Request) (limit : Option Int) :
    TaskM σ Review.Outcome := do
  let (outcome, kept) ← WorldM.within {}
    (Review.run a r s.runner .recording limit).attempt
  let outcome ← orComplain s "git failed" (pure outcome)
  printComments s kept
  return outcome

def postedReview (s : Setting σ) (a : Analyzer) (r : Review.Request) (o : ReviewOrder) :
    TaskM σ Review.Outcome := do
  let some number := o.pull | throw .misused
  if o.repository == "" || o.token == "" then throw .misused
  let commit ← orComplain s ("Cannot resolve " ++ o.head)
    (WorldM.ofLog (Git.output s.runner ["rev-parse", o.head])).attempt
  let sink := (Review.PullRequest.mk o.token o.repository number (Text.strip commit)).sink s.client
  orComplain s "git failed" (WorldM.focus Session.connection (fun k t => { t with connection := k })
    (Review.run a r s.runner sink o.limit).attempt)

/-- Reviews what two commits differ in. -/
def review (s : Setting σ) (o : Order) (r : ReviewOrder) : TaskM σ Unit := do
  let a ← loadAnalyzer s o.project
  let request : Review.Request := ⟨s.workspace, o.project, r.base, r.head⟩
  let outcome ← if r.dry then dryReview s a request r.limit else postedReview s a request r
  print (Console.literal s.width (s!"{outcome.filesAnalyzed} file(s), "
    ++ s!"{outcome.findings.length} finding(s), "
    ++ s!"{(Review.mapped outcome.findings).length} on diff lines, "
    ++ s!"{outcome.commentsPosted} comment(s)"
    ++ if outcome.summaryPosted then ", summary posted" else ""))

/-! ### The service -/

/-- Starts the service (`Service.respond`) with the analyzer of a project. -/
def serve (s : Setting σ) (o : Order) (host : String) (port : Int) : TaskM σ Unit := do
  let _ ← loadAnalyzer s o.project
  WorldM.ofLog (LogM.info .service s!"listening on http://{host}:{port}")

/-! ### Runs -/

def perform (s : Setting σ) (o : Order) : TaskM σ Unit :=
  match o.task with
  | .analyze t => analyze s o t
  | .rules format => listRules s o format
  | .detect path format => detect s o path format
  | .position file line countHeaders => tellPosition s o file line countHeaders
  | .review r => review s o r
  | .serve host port => serve s o host port

def usage : String := Console.page [
  "Usage: codesentry [--version] [-v | -q] COMMAND ...", "",
  "  analyze PATH [-l LANGUAGE] [--format FORMAT] [--fail-on SEVERITY] [--workers N]",
  "  rules [--format FORMAT]",
  "  detect PATH [--format FORMAT]",
  "  diff-position DIFF LINE [--count-hunk-headers | --no-count-hunk-headers]",
  "  review-pr --base REF [--head REF] [--repository NAME --pull-number N --token TOKEN]",
  "            [--dry-run] [--max-comments N]",
  "  serve [--host HOST] [--port PORT]", "",
  "Every command takes --project DIRECTORY and --help."]

/-- How a run ends: a code, what was printed, what was said of it, and what it broke down of.
A run that is misused says nothing. -/
structure Ending where
  code : Nat
  output : String
  errors : String
  misused : Bool := false
  broken : Option Command.Error := none
  deriving DecidableEq, Repr

def Ending.ofMisuse : Ending := { code := 2, output := "", errors := "", misused := true }

def logText (s : Setting σ) (v : Log.Verbosity) (j : Journal) : String :=
  Console.page ((j.entries.filter fun e => v.shows e.level).map fun e =>
    let cause := match e.cause with
      | some f => ": " ++ s.nameOf f
      | none => ""
    Log.line v e.level e.origin.name (e.text ++ cause))

def endOf (r : Except Stop Unit) (printed log : String) : Ending :=
  match r with
  | .ok () => { code := 0, output := printed, errors := log }
  | .error .misused => .ofMisuse
  | .error (.complained code text) => { code, output := printed, errors := log ++ text }
  | .error (.broken e) => { code := 1, output := printed, errors := log, broken := some e }

/-- A run with the words of a command line and a token at hand: its end, the connection after
it, and its journal. -/
def run (s : Setting σ) (token : Option String) (words : List String) (k : Http.Connection σ) :
    Ending × Http.Connection σ × Journal :=
  match readWords s.workspace token words with
  | none => (.ofMisuse, k, {})
  | some .help => ({ code := 0, output := usage, errors := "" }, k, {})
  | some .version => ({ code := 0, output := Console.page [version], errors := "" }, k, {})
  | some (.order o) =>
    let (r, t, j) := (perform s o).outcome { connection := k }
    (endOf r t.printed (logText s o.verbosity j), t.connection, j)

end RuleReview.CommandLine
