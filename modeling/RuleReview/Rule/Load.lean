import RuleReview.Rule
import RuleReview.Pattern.Parser
import RuleReview.Log

/-! Reading rules from data. A member of a category that is an object is a category below
it. A rule or the head of a category that cannot be used is left out with a warning; a
list of rules that is no list makes the whole source unusable. -/

namespace RuleReview.Rule

/-- Why a source as a whole is not used. -/
inductive SourceError
  | notObject
  | rulesNotList (key : String)
  deriving DecidableEq, Repr

def SourceError.message : SourceError → String
  | notObject => "top-level value must be an object mapping category keys to categories"
  | rulesNotList key => "category " ++ Text.quoted key ++ ": `patterns` must be a list"

/-- Why a rule or the head of a category is not used. -/
inductive Defect
  | severity (e : Severity.Error)
  | cwe
  | notObject
  | noPattern
  | badPattern (source : String)
  | noDescription (source : String)
  | scopeKind
  | scopeEntryKind
  | unknownLanguage (tag : String)
  deriving DecidableEq, Repr

def Defect.message : Defect → String
  | severity e => e.message
  | cwe => "`cwe_mappings` must be a list of strings"
  | notObject => "pattern entry must be an object"
  | noPattern => "`pattern` must be a non-empty string"
  | badPattern source => "invalid regular expression " ++ Text.quoted source
  | noDescription source => "pattern " ++ Text.quoted source ++ " has no description"
  | scopeKind => "`language` must be a string or a non-empty list of strings"
  | scopeEntryKind => "`language` entries must be strings"
  | unknownLanguage tag => "unknown language " ++ Text.quoted tag

/-- Why reading stops: the source is not used, or a cause that is not handled here. -/
inductive LoadError
  | source (e : SourceError)
  | fault (f : Fault)
  deriving DecidableEq, Repr

inductive RuleError
  | defect (d : Defect)
  | fault (f : Fault)
  deriving DecidableEq, Repr

/-- The tags of a list up to the first one that decides: the one for every language, or
one that is of no use. -/
def readTags : (found : List String) → List Data → Except Defect (Option (List String))
  | found, [] => .ok (some found)
  | found, .text tag :: rest =>
    if Language.key tag = everyLanguage then .ok none
    else if !Language.isKnown tag then .error (.unknownLanguage tag)
    else readTags (Language.normalize tag :: found) rest
  | _, _ :: _ => .error .scopeEntryKind

/-- The scope of tags, which are put into the order of the language names. -/
def scopeOf (single : Bool) : Option (List String) → Scope
  | none => .single everyLanguage
  | some tags =>
    let known := (Language.names.mergeSort fun a b => decide (a ≤ b)).filter tags.contains
    if single then .single (known.headD everyLanguage) else .several known

def readScope : Data → Except Defect Scope
  | .text tag => (readTags [] [.text tag]).map (scopeOf true)
  | .list (x :: xs) => (readTags [] (x :: xs)).map (scopeOf false)
  | _ => .error .scopeKind

def givenText? : Option Data → Option String
  | some (.text s) => if Text.isBlankText s then none else some (Text.strip s)
  | _ => none

/-- The pattern of a text, letter case not counting. -/
def compile (source : String) : Except RuleError Pattern :=
  if source == "" then .error (.defect .noPattern)
  else match Pattern.parse { ignoreCase := true } source with
  | .ok p => .ok p
  | .error .malformed => .error (.defect (.badPattern source))
  | .error .repeatTooLarge => .error (.fault .repeatTooLarge)
  | .error .flagsClash => .error (.fault .flagsClash)
  | .error (.countTooLong n) => .error (.fault (.tooManyDigits n))

def read (d : Data) : Except RuleError Rule := do
  let some members := d.members? | throw (.defect .notObject)
  let some source := (Data.lookup "pattern" members).bind Data.text?
    | throw (.defect .noPattern)
  let pattern ← compile source
  let some description := givenText? (Data.lookup "description" members)
    | throw (.defect (.noDescription source))
  let scope ← match readScope ((Data.lookup "language" members).getD (.text everyLanguage)) with
    | .ok s => pure s
    | .error e => throw (.defect e)
  return {
    source, pattern, scope, description
    subCategory := (givenText? (Data.lookup "category" members)).getD "general"
    sample := givenText? (Data.lookup "example" members)
    fix := givenText? (Data.lookup "fix" members) }

structure Head where
  title : String
  severity : Severity
  cwe : List String

def titleOfKey (key : String) : String :=
  String.ofList (Text.title (key.toList.map fun c => if c = '_' ∨ c = '-' then ' ' else c))

/-- The texts of a list that holds nothing else. -/
def texts? : List Data → Option (List String)
  | [] => some []
  | .text s :: rest => (texts? rest).map (s :: ·)
  | _ :: _ => none

def readCwe : Data → Except Defect (List String)
  | .text s => .ok [s]
  | .list xs =>
    match texts? xs with
    | some cs => .ok cs
    | none => .error .cwe
  | _ => .error .cwe

/-- The head of a category under a severity to be taken where it has none. -/
def readHead (key : String) (inherited : Severity) (members : List (String × Data)) :
    Except Defect Head := do
  let severity ← match Data.lookup "severity" members with
    | none | some .null => pure inherited
    | some d =>
      match Severity.ofData d with
      | .ok s => pure s
      | .error e => throw (.severity e)
  let title := (givenText? (Data.lookup "title" members)).getD (Text.strip (titleOfKey key))
  let cwe ← readCwe (((Data.lookup "cwe_mappings" members).or
    (Data.lookup "cwe" members)).getD (.list []))
  return ⟨title, severity, cwe⟩

/-- The rules of a list; `index` is the number of the first one. -/
def readRules (source key : String) : (index : Nat) → List Data → LogM LoadError (List Rule)
  | _, [] => return []
  | index, d :: ds => do
    match read d with
    | .ok r => return r :: (← readRules source key (index + 1) ds)
    | .error (.defect e) =>
      LogM.warn .rules (s!"rule source {Text.quoted source}: skipping pattern #{index} in "
        ++ Text.quoted key ++ ": " ++ e.message)
      readRules source key (index + 1) ds
    | .error (.fault f) => throw (.fault f)

def ruleList (key : String) (members : List (String × Data)) : Except LoadError (List Data) :=
  match Data.lookup "patterns" members with
  | none => .ok []
  | some (.list ds) => .ok ds
  | some _ => .error (.source (.rulesNotList key))

/-- Members of a category that are never categories below it. -/
def reserved : List String := ["patterns", "cwe_mappings", "cwe"]

/-- The room that there is for categories in categories, as there is some for the values of JSON
in each other (`Json.maxDepth`): a category that is read takes one level, and what needs one more
than there are is not read. -/
def maxLevels : Nat := 490

mutual

/-- The category of an object; nothing for any other value or for an unusable head. -/
def readCategory (source key : String) (inherited : Severity) (room : Nat) :
    Data → LogM LoadError (Option Category)
  | .object members => do
    match readHead key inherited members with
    | .error e =>
      LogM.warn .rules (s!"rule source {Text.quoted source}: skipping category " ++ Text.quoted key
        ++ ": " ++ e.message)
      return none
    | .ok head =>
      match room with
      | 0 => throw (.fault .tooDeepRules)
      | room + 1 =>
        let ds ← liftExcept (ruleList key members)
        let rules ← readRules source key 0 ds
        let children ← readCategories source reserved head.severity room members
        return some (.mk key head.title head.severity rules children head.cwe)
  | _ => return none

/-- The categories among members, in their order, but for some keys. -/
def readCategories (source : String) (except : List String) (inherited : Severity) (room : Nat) :
    List (String × Data) → LogM LoadError (List Category)
  | [] => return []
  | (key, d) :: rest => do
    if except.contains key then readCategories source except inherited room rest
    else
      let c ← readCategory source key inherited room d
      let cs ← readCategories source except inherited room rest
      return c.toList ++ cs

end

/-- The categories of a source, where there is room for so many levels of them. -/
def readSource (room : Nat) (source : String) : Data → LogM LoadError (List Category)
  | .object members => readCategories source [] .medium room members
  | _ => throw (.source .notObject)

end RuleReview.Rule
