import RuleReview.Data
import RuleReview.Decimal.Shortest
import RuleReview.Text.Quoted

/-! Values as messages show them. -/

namespace RuleReview.Data

def kindName : Data → String
  | .null => "NoneType"
  | .boolean _ => "bool"
  | .integer _ => "int"
  | .real _ => "float"
  | .text _ => "str"
  | .moment => "datetime"
  | .list _ => "list"
  | .object _ => "dict"

mutual

/-- A value with texts in quotation marks. -/
def shown : Data → String
  | .null => "None"
  | .boolean true => "True"
  | .boolean false => "False"
  | .integer n => toString n
  | .real x => x.text
  | .text s => Text.quoted s
  | .moment => ""
  | .list xs => "[" ++ ", ".intercalate (shownItems xs) ++ "]"
  | .object ms => "\x7b" ++ ", ".intercalate (shownMembers ms) ++ "\x7d"

def shownItems : List Data → List String
  | [] => []
  | x :: xs => shown x :: shownItems xs

def shownMembers : List (String × Data) → List String
  | [] => []
  | (k, x) :: ms => (Text.quoted k ++ ": " ++ shown x) :: shownMembers ms

end

/-- A value as a part of a text, where a text stands as it is. -/
def plain : Data → String
  | .text s => s
  | d => d.shown

end RuleReview.Data
