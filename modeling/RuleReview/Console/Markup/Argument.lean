import RuleReview.Console.Markup.Argument.Expression
import RuleReview.Text.Blank
import RuleReview.Text.Word

/-! What follows the equals sign in a tag whose name starts with an at sign: the name of an
action, its arguments in brackets, or both. The arguments must be written-out values. -/

namespace RuleReview.Console.Markup.Argument

/-- Why arguments are refused: their form, or a value. -/
inductive Error
  | form (reason part whole : String)
  | value (reason whole : String)
  deriving DecidableEq, Repr

def Error.message : Error → String
  | form reason part whole =>
    s!"error parsing {Text.quoted part} in {Text.quoted whole}; {reason}"
  | value reason whole => s!"error parsing {Text.quoted whole}; {reason}"

/-- Whether a character may stand in the name of an action. -/
def isInAction (c : Char) : Bool := Text.isWord c || c == '.'

/-- The arguments of an action, in brackets; none if nothing but its name is there. Anything
else is an argument as a whole. -/
def argumentsOf (cs : List Char) : Option (List Char) :=
  match cs.dropWhile isInAction with
  | [] => none
  | rest =>
    if rest.head? == some '(' && rest.getLast? == some ')' && !rest.contains '\n' then some rest
    else some cs

/-- Checks what follows the equals sign. -/
def check (whole : List Char) : Except Error Unit := do
  if whole.isEmpty then return
  match argumentsOf (Text.trim whole) with
  | none => return
  | some part =>
    let wholeText := String.ofList whole
    if part.contains '\x00' then
      throw (.value "source code string cannot contain null bytes" wholeText)
    match tokens part >>= fun (ts, opened) => Expression.ofTokens ts opened with
    | .error reason => throw (.form reason (String.ofList part) wholeText)
    | .ok e =>
      match e.kind with
      | .error u => throw (.value u.message wholeText)
      | .ok _ => return

end RuleReview.Console.Markup.Argument
