import RuleReview.Config
import RuleReview.Log
import RuleReview.Path

/-! Findings of other programs. A linter names files in its own way; each is called by its
path relative to the directory it ran in, where it lies below. -/

namespace RuleReview

/-- A program whose findings are taken over. -/
inductive Linter
  | eslint
  | flake8
  deriving DecidableEq, Repr

namespace Linter

def name : Linter → String
  | eslint => "eslint"
  | flake8 => "flake8"

/-- The name of a linter as a category of issues. -/
def title : Linter → String
  | eslint => "ESLint"
  | flake8 => "flake8"

def extensions : Linter → List String
  | eslint => [".js", ".jsx", ".mjs", ".cjs", ".ts", ".tsx"]
  | flake8 => [".py"]

def command (l : Linter) (files : List String) : List String :=
  match l with
  | eslint => ["npx", "eslint", "-f", "json"] ++ files
  | flake8 => "flake8" :: files

def isEnabled (c : Config.Linters) : Linter → Bool
  | eslint => c.eslint
  | flake8 => c.flake8

/-- Why the output of a linter is not read. -/
inductive Error
  | notList
  | fault (f : Fault)
  deriving DecidableEq, Repr

def Error.message : Error → String
  | notList => "eslint JSON output must be a list"
  | fault f => f.message

/-- How sure the findings of linters are. -/
def confidence : Rat := Decimal.nearest (8 / 10)

/-- A finding. Places before the first line or column are moved there. -/
def issue (l : Linter) (line column : Int) (message : String) (severity : Severity)
    (rule : String) : Issue where
  source := l.name
  category := l.title
  severity := severity
  line := max 1 line.toNat
  column := max 1 column.toNat
  message := message
  confidence := confidence
  subCategory := "lint"
  categoryKey := rule
  impact := .general
  kind := .quality

/-- Findings in the order of the output, each with the name of its file. -/
abbrev Findings := List (String × Issue)

def insert (file : String) (i : Issue) (groups : List (String × List Issue)) :
    List (String × List Issue) :=
  Data.assign file ((Data.lookup file groups).getD [] ++ [i]) groups

/-- The findings of each file, the files in the order of their first findings. -/
def byFile (fs : Findings) : List (String × List Issue) :=
  fs.foldl (fun groups f => insert f.1 f.2 groups) []

def fileName (root : Path) (file : String) : Except Error String :=
  if file.toList.contains '\x00' then .error (.fault .nulInLink)
  else .ok (root.relativeTo (Path.ofString file))

end Linter

end RuleReview
