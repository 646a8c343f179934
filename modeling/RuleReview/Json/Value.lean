import RuleReview.Data
import RuleReview.Text.Letter

/-! Values as JSON tells them. Their texts are letters, for an escape may stand for half of a
character. -/

namespace RuleReview.Json

open Text (Letter)

inductive Value
  | null
  | boolean (b : Bool)
  | integer (n : Int)
  | real (x : Decimal.Binary64)
  | text (ls : List Letter)
  | list (items : List Value)
  | object (members : List (List Letter × Value))
  deriving Repr, Inhabited

namespace Value

def get? (key : String) : Value → Option Value
  | .object ms => Data.lookup (Text.lettersOf key) ms
  | _ => none

def letters? : Value → Option (List Letter)
  | .text ls => some ls
  | _ => none

def items? : Value → Option (List Value)
  | .list vs => some vs
  | _ => none

mutual

/-- A value with its texts mended. Keys that become one have the last of their values. -/
def mend : Value → Data
  | .null => .null
  | .boolean b => .boolean b
  | .integer n => .integer n
  | .real x => .real x
  | .text ls => .text (Text.mend ls)
  | .list vs => .list (mendItems vs)
  | .object ms => .object (Data.assignAll (mendMembers ms))

def mendItems : List Value → List Data
  | [] => []
  | v :: vs => mend v :: mendItems vs

def mendMembers : List (List Letter × Value) → List (String × Data)
  | [] => []
  | (key, v) :: ms => (Text.mend key, mend v) :: mendMembers ms

end

end Value

end RuleReview.Json
