import RuleReview.Decimal.Binary64

/-! Values of data files. An object keeps its members in the order in which their
keys first appeared, each key once; a later value for a key takes the earlier place. -/

namespace RuleReview

/-- A value of a data file. A date or a time has no use here and keeps no content. -/
inductive Data
  | null
  | boolean (b : Bool)
  | integer (n : Int)
  | real (x : Decimal.Binary64)
  | text (s : String)
  | moment
  | list (items : List Data)
  | object (members : List (String × Data))
  deriving Repr, Inhabited

namespace Data

section Keys

variable {κ : Type} [DecidableEq κ]

def lookup (key : κ) : List (κ × α) → Option α
  | [] => none
  | (k, v) :: rest => if k = key then some v else lookup key rest

/-- Puts a value under a key, in place of an earlier value or at the end. -/
def assign (key : κ) (value : α) : List (κ × α) → List (κ × α)
  | [] => [(key, value)]
  | (k, v) :: rest => if k = key then (k, value) :: rest else (k, v) :: assign key value rest

/-- The members of an object read one after the other. -/
def assignAll (pairs : List (κ × α)) : List (κ × α) :=
  pairs.foldl (fun acc p => assign p.1 p.2 acc) []

end Keys

def members? : Data → Option (List (String × Data))
  | .object ms => some ms
  | _ => none

def get? (key : String) (d : Data) : Option Data := d.members?.bind (lookup key)

def text? : Data → Option String
  | .text s => some s
  | _ => none

def items? : Data → Option (List Data)
  | .list xs => some xs
  | _ => none

/-- Whether a value counts as present where a default may stand in: absent values, no,
zeros and empty texts, lists and objects do not. -/
def isTruthy : Data → Bool
  | .null => false
  | .boolean b => b
  | .integer n => n != 0
  | .real (.finite x) => x != 0
  | .real .negativeZero => false
  | .real _ => true
  | .text s => s != ""
  | .moment => true
  | .list xs => !xs.isEmpty
  | .object ms => !ms.isEmpty

end Data

end RuleReview
