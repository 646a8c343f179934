import RuleReview.Config
import RuleReview.Fault
import RuleReview.Toml.Document
import RuleReview.Workspace

/-! Reading a configuration from a table and from the file of a project. Option names
are written with hyphens or with low lines, and the former win. -/

namespace RuleReview.Config

/-- What an option that is refused ought to have been. -/
inductive Expectation
  | table
  | count
  | ratio
  | boolean
  deriving DecidableEq, Repr

def Expectation.words : Expectation → String
  | .table => "must be a table."
  | .count => "must be an integer > 0."
  | .ratio => "must be a number between 0 and 1."
  | .boolean => "must be a boolean."

/-- Why a configuration is refused. -/
inductive Error
  | languageNotText
  | languageUnknown (text : String)
  | expected (option : String) (what : Expectation)
  | sourcesNotTexts
  | unknownSources (names : List String)
  | pathNotText (name : String)
  | nameTaken (name : String)
  | kindUnknown (name : String)
  | kindWithoutSource (name : String)
  | criticalBelowHigh
  | malformedFile (path words : String)
  deriving DecidableEq, Repr

def optionName (option : String) : String := "`tool.codesentry." ++ option ++ "`"

def Error.message : Error → String
  | languageNotText => optionName "default-language" ++ " must be a non-empty string."
  | languageUnknown text =>
    optionName "default-language" ++ " is not a supported language: " ++ Text.quoted text ++ "."
  | expected option what => optionName option ++ " " ++ what.words
  | sourcesNotTexts => optionName "rules.sources" ++ " must be a list of strings."
  | unknownSources names =>
    optionName "rules.sources" ++ " contains unknown source(s): " ++ ", ".intercalate names
      ++ ". (" ++ ", ".intercalate builtinSources ++ ")"
  | pathNotText name => optionName ("rules.extra." ++ name) ++ " must be a string path."
  | nameTaken name =>
    optionName ("rules.extra." ++ name) ++ " conflicts with a built-in source name."
  | kindUnknown name =>
    optionName ("rules.extra-kinds." ++ name) ++ " must be one of: quality, security."
  | kindWithoutSource name =>
    optionName ("rules.extra-kinds." ++ name) ++ " has no matching `extra` source."
  | criticalBelowHigh =>
    optionName "metrics.complexity-critical" ++ " must be >= `complexity-high`."
  | malformedFile path words => "Invalid TOML in " ++ path ++ ": " ++ words

/-- Why no configuration is read. -/
inductive Failure
  | invalid (e : Error)
  | fault (f : Fault)
  deriving DecidableEq, Repr

abbrev Table := List (String × Data)

/-- The other spelling of an option name. -/
def withLowLines (key : String) : String :=
  String.ofList (key.toList.map fun c => if c = '-' then '_' else c)

/-- The value of an option in either spelling. -/
def option? (key : String) (t : Table) : Option Data :=
  (Data.lookup key t).or (Data.lookup (withLowLines key) t)

/-- The members of an option that is a table; absent ones have no members. -/
def section_ (name : String) : Option Data → Except Failure Table
  | none | some .null => .ok []
  | some (.object ms) => .ok ms
  | some _ => .error (.invalid (.expected name .table))

def readCount (path key : String) (fallback : Nat) (t : Table) : Except Failure Nat :=
  match option? key t with
  | none => .ok fallback
  | some (.integer n) =>
    if 0 < n then .ok n.toNat else .error (.invalid (.expected (path ++ "." ++ key) .count))
  | some _ => .error (.invalid (.expected (path ++ "." ++ key) .count))

def readRatio (path key : String) (fallback : Rat) (t : Table) : Except Failure Rat :=
  let refused : Except Failure Rat := .error (.invalid (.expected (path ++ "." ++ key) .ratio))
  let within (x : Rat) : Except Failure Rat := if 0 ≤ x ∧ x ≤ 1 then .ok x else refused
  match option? key t with
  | none => .ok fallback
  | some (.integer n) =>
    match Decimal.Binary64.ofRat n with
    | .infinity _ => .error (.fault .integerTooLarge)
    | x => within (x.toRat?.getD 2)
  | some (.real x) => within (x.toRat?.getD 2)
  | some _ => refused

def readBoolean (path key : String) (fallback : Bool) (t : Table) : Except Failure Bool :=
  match option? key t with
  | none => .ok fallback
  | some (.boolean b) => .ok b
  | some _ => .error (.invalid (.expected (path ++ "." ++ key) .boolean))

/-- The texts of a list that holds nothing else. -/
def allTexts? : List Data → Option (List String)
  | [] => some []
  | .text s :: rest => (allTexts? rest).map (s :: ·)
  | _ :: _ => none

def readSources : Option Data → Except Failure (List String)
  | none => .ok builtinSources
  | some (.list xs) =>
    match allTexts? xs with
    | none => .error (.invalid .sourcesNotTexts)
    | some ss =>
      let names := (ss.filter fun s => !Text.isBlankText s).map Text.strip
      let unknown := names.filter fun s => !builtinSources.contains s
      if unknown.isEmpty then .ok names else .error (.invalid (.unknownSources unknown))
  | some _ => .error (.invalid .sourcesNotTexts)

/-- Further sources with their paths. -/
def readExtra : Table → Except Failure (List (String × String))
  | [] => .ok []
  | (name, .text path) :: rest => do
    if Text.isBlankText path then throw (.invalid (.pathNotText name))
    if builtinSources.contains name then throw (.invalid (.nameTaken name))
    return (name, Text.strip path) :: (← readExtra rest)
  | (name, _) :: _ => .error (.invalid (.pathNotText name))

/-- The kind of the issues of a source. A list or a table cannot even be compared. -/
def readKind (name : String) : Data → Except Failure Issue.Kind
  | .text "quality" => .ok .quality
  | .text "security" => .ok .security
  | .list _ | .object _ => .error (.fault .wrongKind)
  | _ => .error (.invalid (.kindUnknown name))

def readKinds (extra : List (String × String)) : Table → Except Failure (List (String × Issue.Kind))
  | [] => .ok []
  | (name, d) :: rest => do
    let kind ← readKind name d
    if (extra.lookup name).isNone then throw (.invalid (.kindWithoutSource name))
    return (name, kind) :: (← readKinds extra rest)

def readRules (d : Option Data) : Except Failure Rules := do
  let t ← section_ "rules" d
  let sources ← readSources (Data.lookup "sources" t)
  let extra ← readExtra (← section_ "rules.extra" (Data.lookup "extra" t))
  let extraKinds ← readKinds extra (← section_ "rules.extra-kinds" (option? "extra-kinds" t))
  return { sources, extra, extraKinds }

def readMetrics (d : Option Data) : Except Failure Thresholds := do
  let t ← section_ "metrics" d
  let base : Thresholds := {}
  let complexityHigh ← readCount "metrics" "complexity-high" base.complexityHigh t
  let complexityCritical ← readCount "metrics" "complexity-critical" base.complexityCritical t
  if complexityCritical < complexityHigh then throw (.invalid .criticalBelowHigh)
  let functionLength ← readCount "metrics" "function-length" base.functionLength t
  let nestingDepth ← readCount "metrics" "nesting-depth" base.nestingDepth t
  let duplicationRatio ← readRatio "metrics" "duplication-ratio" base.duplicationRatio t
  let commentRatio ← readRatio "metrics" "comment-ratio" base.commentRatio t
  let commentMinLines ← readCount "metrics" "comment-min-lines" base.commentMinLines t
  return ⟨complexityHigh, complexityCritical, functionLength, nestingDepth, duplicationRatio,
    commentRatio, commentMinLines⟩

def readComments (d : Option Data) : Except Failure Comments := do
  let t ← section_ "github" d
  let maxComments ← readCount "github" "max-comments" 50 t
  let countHunkHeaders ← readBoolean "github" "count-hunk-headers" false t
  return { maxComments, countHunkHeaders }

def readLinters (d : Option Data) : Except Failure Linters := do
  let t ← section_ "linters" d
  let eslint ← readBoolean "linters" "eslint" false t
  let flake8 ← readBoolean "linters" "flake8" false t
  return { eslint, flake8 }

/-- The language where nothing tells of another one. -/
def readLanguage (t : Table) : Except Failure String :=
  match option? "default-language" t with
  | none => .ok Language.default
  | some (.text s) =>
    if Text.isBlankText s then .error (.invalid .languageNotText)
    else if Language.isKnown s then .ok (Language.normalize s)
    else .error (.invalid (.languageUnknown s))
  | some _ => .error (.invalid .languageNotText)

def ofTable (project : Path) (t : Table) : Except Failure Config := do
  let defaultLanguage ← readLanguage t
  let rules ← readRules (Data.lookup "rules" t)
  let metrics ← readMetrics (Data.lookup "metrics" t)
  let comments ← readComments (Data.lookup "github" t)
  let linters ← readLinters (Data.lookup "linters" t)
  return { defaultLanguage, rules, metrics, comments, linters, project }

/-- The file that holds the configuration of a project. -/
def filePath (project : Path) : Path := project.join ⟨"", ["pyproject.toml"]⟩

/-- The table of a configuration file that is about this library, if it has members. -/
def ownTable? (file : Table) : Option Table :=
  match (Data.lookup "tool" file).bind (Data.get? "codesentry") with
  | some (.object []) => none
  | some (.object ms) => some ms
  | _ => none

/-- The configuration of a project, the given one where its file does not tell. A file that is no
TOML is refused in the words of who reads it. -/
def load (words : String → String) (w : Workspace) (project : Path) : Except Failure Config := do
  let path := filePath project
  let base : Config := { project }
  if !w.exists? path then return base
  let text ← match w.readText path with
    | .ok s => pure s
    | .error f => throw (.fault f)
  match Toml.read text with
  | .error .malformed => throw (.invalid (.malformedFile path.toString (words text)))
  | .error (.tooManyDigits n) => throw (.fault (.tooManyDigits n))
  | .error .tooDeep => throw (.fault .tooDeepToml)
  | .ok file =>
    match ownTable? file with
    | some t => ofTable project t
    | none => return base

end RuleReview.Config
