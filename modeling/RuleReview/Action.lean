import RuleReview.Config.Table
import RuleReview.Data.Number
import RuleReview.Review.PullRequest
import RuleReview.Review.Run

/-! Reviews that are started by an event on a pull request. What to do is told by the
environment: settings by name, and a file about the event. -/

namespace RuleReview.Action

abbrev Environment := List (String × String)

def variable_ (env : Environment) (name : String) : String := (env.lookup name).getD ""

/-- A setting, whose variable may be spelled with low lines for hyphens. -/
def setting (env : Environment) (name fallback : String) : String :=
  let key := "INPUT_" ++ Text.toUpper name
  match env.lookup key with
  | some value => value
  | none =>
    let bare := String.ofList (key.toList.map fun c => if c = '-' then '_' else c)
    (env.lookup bare).getD fallback

/-- What a setting affirms or denies. -/
def readSwitch (value : String) (fallback : Bool) : Bool :=
  let word := Text.toLower (Text.strip value)
  if ["1", "true", "yes", "y", "on"].contains word then true
  else if ["0", "false", "no", "n", "off"].contains word then false
  else fallback

/-- The positive number of a setting. -/
def readCount (value : String) (fallback : Int) : Int :=
  match Decimal.readInteger (Text.strip value) with
  | .ok n => if 0 < n then n else fallback
  | .error _ => fallback

/-! ### The event -/

/-- The members of a file about an event, none where there is no such file. -/
def readEvent (w : Workspace) (path : String) : Except Fault (Option (List (String × Data))) :=
  let p := Path.ofString path
  if p.parts.isEmpty then .ok none
  else match w.look p with
    | .error f => .error f
    | .ok none | .ok (some (.directory _)) => .ok none
    | .ok (some (.file _)) =>
      match w.readText p with
      | .error _ => .ok none
      | .ok text =>
        match Json.read text with
        | .ok (.object ms) => .ok (some ms)
        | .ok _ | .error .malformed => .ok none
        | .error e => .error (.ofJson e)

/-- The pull request of an event and the commits it joins. -/
structure Pull where
  number : Int
  base : String
  head : String
  deriving DecidableEq, Repr

def member (key : String) (d : Data) : Except Fault Data :=
  match d with
  | .object ms =>
    match Data.lookup key ms with
    | some x => .ok x
    | none => .error .noSuchKey
  | _ => .error .wrongKind

/-- The name of a commit of a pull request. -/
def readCommit (key : String) (d : Data) : Except Fault String := do
  return (← member "sha" (← member key d)).plain

/-- The pull request of the members that tell of it. -/
def readPull (d : Data) : Except Fault Pull := do
  let number ← (← member "number" d).toInteger
  let base ← readCommit "base" d
  let head ← readCommit "head" d
  return ⟨number, base, head⟩

/-- The members of an event that tell of a pull request. -/
def pullOf (event : Option (List (String × Data))) : Option Data :=
  match event.bind (Data.lookup "pull_request") with
  | some (.object ms) => some (.object ms)
  | _ => none

/-! ### The review -/

/-- Why nothing more is done: with a code, or for a cause that is not handled. -/
inductive Stop
  | exit (code : Nat)
  | fault (f : Fault)
  deriving DecidableEq, Repr

def Stop.ofError : Command.Error → Stop
  | .fault f => .fault f
  | _ => .exit 1

structure Plan where
  workspace : Workspace
  config : Config
  pull : Pull
  limit : Int
  comment : Bool
  token : String
  repository : String

/-- Reads the configuration; a file that is no TOML is told of in given words. -/
def readConfig {τ : Type} (words : String → String) (w : Workspace) : WorldM τ Stop Config := do
  match Config.load words w w.root with
  | .ok c => return c
  | .error (.fault f) => throw (.fault f)
  | .error (.invalid e) =>
    WorldM.ofLog (LogM.error .review e.message)
    throw (.exit 2)

def readPlan {τ : Type} (words : String → String) (env : Environment) (w : Workspace) :
    WorldM τ Stop (Option Plan) := do
  let config ← readConfig words w
  let most : Int := config.comments.maxComments
  let limit := readCount (setting env "max-comments" (toString most)) most
  let comment := readSwitch (setting env "comment" "true") true
  let event ← match readEvent w (variable_ env "GITHUB_EVENT_PATH") with
    | .ok event => pure event
    | .error f => throw (.fault f)
  let some d := pullOf event
    | WorldM.ofLog (LogM.info .review "Not a pull_request event; nothing to review.")
      return none
  let pull ← match readPull d with
    | .ok pull => pure pull
    | .error f => throw (.fault f)
  let given := Text.strip (setting env "github-token" "")
  let token := if given == "" then variable_ env "GITHUB_TOKEN" else given
  let repository := variable_ env "GITHUB_REPOSITORY"
  return some { workspace := w, config, pull, limit, comment, token, repository }

def Plan.posts (p : Plan) : Bool := p.comment && p.token != "" && p.repository != ""

def Plan.target (p : Plan) : Review.PullRequest :=
  ⟨p.token, p.repository, p.pull.number, p.pull.head⟩

def Plan.review (p : Plan) (runner : Command.Runner) (client : Http.Client σ) (a : Analyzer) :
    WorldM (Http.Connection σ) Command.Error Review.Outcome :=
  let request : Review.Request := ⟨p.workspace, p.workspace.root, p.pull.base, p.pull.head⟩
  if p.posts then Review.run a request runner (p.target.sink client) (some p.limit)
  else do
    let (o, _) ← WorldM.within {} (Review.run a request runner .recording (some p.limit))
    return o

/-- Carries out a plan; the answer is the summary of the run. -/
def Plan.run (p : Plan) (runner : Command.Runner) (client : Http.Client σ) :
    WorldM (Http.Connection σ) Stop String := do
  (WorldM.ofLog (Git.ensureCommit runner p.pull.base)).mapError Stop.ofError
  (WorldM.ofLog (Git.ensureCommit runner p.pull.head)).mapError Stop.ofError
  if p.comment && !p.posts then
    WorldM.ofLog (LogM.warn .review
      "PR commenting requested, but GITHUB_TOKEN/GITHUB_REPOSITORY is missing.")
  let a ← (WorldM.ofLog (Analyzer.build p.workspace p.config)).mapError Stop.fault
  match ← (p.review runner client a).attempt with
  | .ok o =>
    return Review.stepSummary o.filesAnalyzed (o.findings.map (·.placed)) o.commentsPosted
  | .error (.fault f) => throw (.fault f)
  | .error e =>
    WorldM.ofLog (LogM.error .review ("could not list changed files: " ++ e.message))
    throw (.exit 1)

/-- A run; the answer is its summary, none where there was nothing to review. -/
def run (words : String → String) (env : Environment) (w : Workspace) (runner : Command.Runner)
    (client : Http.Client σ) : WorldM (Http.Connection σ) Stop (Option String) := do
  match ← readPlan words env w with
  | none => return none
  | some p => return some (← p.run runner client)

end RuleReview.Action
