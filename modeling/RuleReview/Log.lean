import RuleReview.Fault

/-! Log entries and the journal of a run. An operation that keeps a journal hands it on
with its result, also when it stops. -/

namespace RuleReview

namespace Log

/-- How much an entry matters, in ascending order. -/
inductive Level
  | debug
  | info
  | warning
  | error
  | critical
  deriving DecidableEq, Repr

def Level.name : Level → String
  | .debug => "DEBUG"
  | .info => "INFO"
  | .warning => "WARNING"
  | .error => "ERROR"
  | .critical => "CRITICAL"

def Level.rank : Level → Nat
  | .debug => 10
  | .info => 20
  | .warning => 30
  | .error => 40
  | .critical => 50

inductive Origin
  | rules
  | analysis
  | commands
  | linters
  | review
  | comments
  | service
  deriving DecidableEq, Repr

/-- The name of a part in log entries. -/
def Origin.name : Origin → String
  | .rules => "codesentry.rules.registry"
  | .analysis => "codesentry.engine.detection"
  | .commands => "codesentry.git"
  | .linters => "codesentry.linters"
  | .review => "codesentry.action"
  | .comments => "codesentry.action_github"
  | .service => "codesentry.server"

/-- A message, followed by the cause where one has no words of its own. -/
structure Entry where
  level : Level
  origin : Origin
  text : String
  cause : Option Fault := none
  deriving DecidableEq, Repr

end Log

/-- What a run leaves behind beside its result: what it logged and which commands it ran,
both in order. -/
structure Journal where
  entries : List Log.Entry := []
  commands : List (List String) := []
  deriving DecidableEq, Repr

namespace Journal

def log (j : Journal) (e : Log.Entry) : Journal := { j with entries := j.entries ++ [e] }

def command (j : Journal) (args : List String) : Journal :=
  { j with commands := j.commands ++ [args] }

end Journal

/-- A step that keeps a journal and may stop. -/
abbrev LogM (ε : Type) := ExceptT ε (StateM Journal)

namespace LogM

def add {ε : Type} (e : Log.Entry) : LogM ε Unit := modify (·.log e)

def entry {ε : Type} (level : Log.Level) (origin : Log.Origin) (text : String)
    (cause : Option Fault := none) : LogM ε Unit :=
  add ⟨level, origin, text, cause⟩

def warn {ε : Type} (origin : Log.Origin) (text : String) (cause : Option Fault := none) :
    LogM ε Unit :=
  entry .warning origin text cause

def error {ε : Type} (origin : Log.Origin) (text : String) : LogM ε Unit := entry .error origin text

def info {ε : Type} (origin : Log.Origin) (text : String) : LogM ε Unit := entry .info origin text

/-- Logs a warning that names a cause, in its own words where it has any. -/
def warnOf {ε : Type} (origin : Log.Origin) (text : String) (cause : Fault) : LogM ε Unit :=
  if cause.hasWords then warn origin (text ++ ": " ++ cause.message)
  else warn origin text (some cause)

def outcome {ε α : Type} (m : LogM ε α) : Except ε α × Journal := m.run.run {}

/-- Runs a step of which no stop is let through: what it stops for becomes the result. -/
def attempt {ε ε' α : Type} (m : LogM ε α) : LogM ε' (Except ε α) := fun j =>
  match m j with
  | (r, j) => (.ok r, j)

/-- Runs a step with the causes of its stops told in other words. -/
def mapError {ε ε' α : Type} (f : ε → ε') (m : LogM ε α) : LogM ε' α := fun j =>
  match m j with
  | (.ok a, j) => (.ok a, j)
  | (.error e, j) => (.error (f e), j)

end LogM

end RuleReview
