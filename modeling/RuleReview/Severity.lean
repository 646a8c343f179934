import RuleReview.Text.Case
import RuleReview.Text.Blank
import RuleReview.Data.Shown

/-! Severities of findings. -/

namespace RuleReview

inductive Severity
  | critical
  | high
  | medium
  | low
  deriving DecidableEq, Repr

namespace Severity

def all : List Severity := [critical, high, medium, low]

/-- A number that is greater for a graver finding. -/
def rank : Severity → Nat
  | critical => 4
  | high => 3
  | medium => 2
  | low => 1

def name : Severity → String
  | critical => "CRITICAL"
  | high => "HIGH"
  | medium => "MEDIUM"
  | low => "LOW"

def sign : Severity → String
  | critical => "🛑"
  | high => "✖"
  | medium => "⚠"
  | low => "ℹ"

def ofName? (s : String) : Option Severity := all.find? (·.name == s)

inductive Error
  | notText (kind : String)
  | unknown (text : String)
  deriving DecidableEq, Repr

def Error.message : Error → String
  | notText kind => "severity must be a string, got " ++ kind
  | unknown text =>
    "unknown severity " ++ Text.quoted text ++ " (expected one of: "
      ++ ", ".intercalate (all.map name) ++ ")"

/-- The severity that a text names in any case; a warning is of medium severity. -/
def parse (s : String) : Except Error Severity :=
  let n := Text.toUpper (Text.strip s)
  match ofName? (if n == "WARNING" then "MEDIUM" else n) with
  | some v => .ok v
  | none => .error (.unknown s)

def ofData : Data → Except Error Severity
  | .text s => parse s
  | d => .error (.notText d.kindName)

end Severity

end RuleReview
