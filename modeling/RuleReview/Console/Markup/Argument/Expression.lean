import RuleReview.Console.Markup.Argument.Literal
import RuleReview.Console.Markup.Argument.Token

/-! The grammar of expressions in a tag, as far as written-out values need it: operands with
operators between them, calls, attributes, tuples, sets and tables. -/

namespace RuleReview.Console.Markup.Argument

/-- An expression is not read: another reading may be tried, or there is a reason. -/
inductive Failure
  | unread
  | reason (text : String)
  deriving DecidableEq, Repr

/-- What reading depends on: the bracket that is open at the end of all words, and whether a
reading is a trial that gives no reasons. -/
structure Setting where
  opened : Option Char
  isTrial : Bool := false

/-- Reading from the front of words. -/
abbrev Reading := ReaderT Setting (StateT (List Token) (Except Failure))

/-- An expression, what it is called where a value is wrongly assigned to it, and whether it is
called so after an equals sign. -/
structure Expression where
  value : Literal
  noun : String := "expression"
  isName : Bool := false
  isTarget : Bool := true

namespace Expression

/-- A written-out number or text. -/
def literal (value : Literal) : Expression := { value, noun := "literal" }

def keywords : List String := [
  "and", "as", "assert", "async", "await", "break", "class", "continue", "def", "del", "elif",
  "else", "except", "finally", "for", "from", "global", "if", "import", "in", "is", "lambda",
  "nonlocal", "not", "or", "pass", "raise", "return", "try", "while", "with", "yield"]

/-- Operators between operands, except those of two words. -/
def operators : List String := [
  "+", "-", "*", "/", "//", "%", "@", "**", "<<", ">>", "&", "|", "^", "<", ">", "<=", ">=", "==",
  "!="]

def isSign (s : String) (t : Token) : Bool := t == .sign s.toList

def isWord (s : String) (t : Token) : Bool := t == .name s.toList

/-- Words that stand for themselves. -/
def constants : List String := ["None", "True", "False"]

def startsOperand : Token → Bool
  | .name cs => !keywords.contains (String.ofList cs)
  | .number _ | .text _ _ | .flawed _ => true
  | t => ["(", "\x7b", "...", "~"].any fun s => isSign s t

def fail {α : Type} : Reading α := throw .unread

def reject {α : Type} (text : String) : Reading α := throw (.reason text)

/-- Gives up for a reason that a trial does not give. -/
def refuse {α : Type} (text : String) : Reading α := do
  if (← read).isTrial then fail else reject text

/-- The words that are left. To look past the last one while a bracket is open is a failure. -/
def left : Reading (List Token) := do
  let ts ← get
  match ts, (← read).opened with
  | [], some bracket => reject s!"'{bracket}' was never closed"
  | _, _ => return ts

/-- Takes a word if it is as asked. -/
def accept (p : Token → Bool) : Reading Bool := do
  match ← left with
  | t :: ts =>
    if p t then
      set ts
      return true
    else return false
  | [] => return false

/-- Whether the next word is as asked. -/
def sees (p : Token → Bool) : Reading Bool := return (← left).head?.any p

/-- The result of a reading, if there is one; otherwise no word is taken. -/
def attempt {α : Type} (r : Reading α) : Reading (Option α) := fun setting ts =>
  match (r.run setting).run ts with
  | .ok (a, rest) => .ok (some a, rest)
  | .error .unread => .ok (none, ts)
  | .error f => .error f

def asTrial {α : Type} (r : Reading α) : Reading α :=
  ReaderT.adapt (fun setting : Setting => { setting with isTrial := true }) r

def expect (s : String) : Reading Unit := do
  if !(← accept (isSign s)) then fail

def acceptOperator : Reading (Option String) := do
  match ← left with
  | .sign cs :: ts =>
    let s := String.ofList cs
    if operators.contains s then
      set ts
      return some s
    else return none
  | .name cs :: ts =>
    match String.ofList cs, ts with
    | "and", _ | "or", _ => do
      set ts
      return some "and"
    | "in", _ => do
      set ts
      return some "in"
    | "is", t :: ts' =>
      set (if isWord "not" t then ts' else ts)
      return some "in"
    | "not", t :: ts' =>
      if isWord "in" t then
        set ts'
        return some "in"
      else return none
    | _, _ => return none
  | _ => return none

/-- What two operands with an operator between them are called, and whether they are called so
after an equals sign. -/
def nounOf (op : String) : String × Bool :=
  if op == "and" then ("expression", false)
  else if ["in", "<", ">", "<=", ">=", "==", "!="].contains op then ("comparison", false)
  else ("expression", true)

/-- Whether two operands may stand side by side for another reason: a word before a text, or a
word that may be a keyword. -/
def mayPrecede : List Token → Bool
  | .name cs :: rest =>
    let s := String.ofList cs
    ["match", "case", "_"].contains s
      || (!(constants ++ ["print", "exec"]).contains s
        && rest.head?.any fun | .text _ _ => true | _ => false)
  | _ => false

/-- Why two operands must not stand side by side, if a reason is given. -/
def adjacent (inside : Bool) : List Token → Option String
  | .name cs :: rest =>
    let s := String.ofList cs
    if (s == "print" || s == "exec") && !rest.head?.any (isSign "(") then
      some s!"Missing parentheses in call to '{s}'. Did you mean {s}(...)?"
    else if inside then some comma else none
  | _ => if inside then some comma else none
where
  /-- What is missing. -/
  comma : String := "invalid syntax. Perhaps you forgot a comma?"

/-- Texts side by side are one text, of bytes or of characters. -/
def texts (bytes isOpen : Bool) : List Token → Reading Expression
  | .text b o :: ts =>
    if b != bytes then reject "cannot mix bytes and nonbytes literals"
    else texts bytes (isOpen || o) ts
  | .flawed reason :: _ => reject reason
  | ts => do
    set ts
    return if isOpen then { value := .other, noun := "f-string expression" } else literal .atom

mutual

/-- Operands with operators between them, inside brackets or not, or one of two such by a
condition. -/
def readExpression (inside : Bool) : (fuel : Nat) → Reading Expression
  | 0 => fail
  | fuel + 1 => do
    let front ← get
    let e ← readPlain fuel
    if !(← read).isTrial && !mayPrecede front then
      if ← sees (fun t => startsOperand t || isWord "not" t) then
        let after ← get
        if (← attempt (asTrial (readPlain fuel))).isSome then
          if let some reason := adjacent inside front then reject reason
          set after
    if ← accept (isWord "if") then
      let _ ← readPlain fuel
      if ← sees (isSign ":") then fail
      if !(← accept (isWord "else")) then refuse "expected 'else' after 'if' expression"
      let _ ← readExpression inside fuel
      return { value := .other, noun := "conditional expression", isTarget := false }
    return e

/-- Operands with operators between them and nothing after them. -/
def readPlain : (fuel : Nat) → Reading Expression
  | 0 => fail
  | fuel + 1 => do readOperators (← readOperand true fuel) true fuel

/-- The operators after an operand; both operands of a single operator are kept. -/
def readOperators (e : Expression) (isFirst : Bool) : (fuel : Nat) → Reading Expression
  | 0 => fail
  | fuel + 1 => do
    let next ← attempt do
      match ← acceptOperator with
      | none => fail
      | some op => return (op, ← readOperand (op == "and") fuel)
    match next with
    | none => return e
    | some (op, right) =>
      let value : Literal :=
        if isFirst && (op == "+" || op == "-") then .sum e.value right.value else .other
      let (noun, isTarget) := nounOf op
      readOperators { value, noun, isTarget := e.isTarget && isTarget } false fuel

def readOperand (mayNegate : Bool) : (fuel : Nat) → Reading Expression
  | 0 => fail
  | fuel + 1 => do
    if ← accept (fun t => isSign "-" t || isSign "+" t) then
      return { value := .signed (← readOperand false fuel).value }
    if ← accept (isSign "~") then
      let _ ← readOperand false fuel
      return { value := .other }
    if mayNegate then
      if ← accept (isWord "not") then
        let _ ← readOperand true fuel
        return { value := .other, isTarget := false }
    readTrailers (← readAtom fuel) fuel

/-- The calls and attributes after an atom. -/
def readTrailers (e : Expression) : (fuel : Nat) → Reading Expression
  | 0 => fail
  | fuel + 1 => do
    let next ← attempt do
      if ← accept (isSign "(") then
        let arguments ← readArguments fuel
        let value : Literal :=
          match e.value, arguments with
          | .setName, 0 => .set []
          | _, _ => .other
        return { value, noun := "function call", isTarget := e.isTarget }
      expect "."
      match ← left with
      | .name cs :: ts =>
        if keywords.contains (String.ofList cs) then fail
        set ts
        return { value := .other, noun := "attribute", isTarget := e.isTarget }
      | _ => fail
    match next with
    | none => return e
    | some e => readTrailers e fuel

/-- The number of arguments of a call up to its closing bracket. -/
def readArguments : (fuel : Nat) → Reading Nat
  | 0 => fail
  | fuel + 1 => do
    if ← accept (isSign ")") then return 0
    if ← accept (fun t => isSign "*" t || isSign "**" t) then
      let _ ← readExpression true fuel
    else
      let e ← readExpression true fuel
      if ← accept (isSign ":=") then
        if !e.isName then fail
        let _ ← readExpression true fuel
      else if ← accept (isSign "=") then
        if constants.contains e.noun then reject s!"cannot assign to {e.noun}"
        if !e.isName then reject "expression cannot contain assignment, perhaps you meant \"==\"?"
        let _ ← readExpression true fuel
    if ← accept (isSign ",") then
      return 1 + (← readArguments fuel)
    else
      expect ")"
      return 1

def readItem : (fuel : Nat) → Reading Expression
  | 0 => fail
  | fuel + 1 => do
    if ← accept (isSign "*") then
      let _ ← readPlain fuel
      return { value := .other, isTarget := false }
    let e ← readExpression true fuel
    if ← accept (isSign ":=") then
      let _ ← readExpression true fuel
      if e.isName then return { value := .other, noun := "named expression", isTarget := false }
      refuse s!"cannot use assignment expressions with {e.noun}"
    if ← sees (isSign "=") then
      if !e.isTarget then fail
      let _ ← accept (isSign "=")
      let _ ← readOperand false fuel
      if ← sees (fun t => isSign "=" t || isSign ":=" t) then fail
      if e.isName then refuse "invalid syntax. Maybe you meant '==' or ':=' instead of '='?"
      refuse s!"cannot assign to {e.noun} here. Maybe you meant '==' instead of '='?"
    return e

/-- Expressions up to a closing bracket, and whether a comma follows the last one. -/
def readItems (close : String) : (fuel : Nat) → Reading (List Expression × Bool)
  | 0 => fail
  | fuel + 1 => do
    if ← accept (isSign close) then return ([], true)
    let e ← readItem fuel
    if ← accept (isSign ",") then
      let (es, comma) ← readItems close fuel
      return (e :: es, comma)
    else
      expect close
      return ([e], false)

/-- The value after a key of a table. -/
def readValue : (fuel : Nat) → Reading Expression
  | 0 => fail
  | fuel + 1 => do
    if !(← accept (isSign ":")) then refuse "':' expected after dictionary key"
    if ← sees (fun t => isSign "\x7d" t || isSign "," t) then
      reject "expression expected after dictionary key and ':'"
    if ← sees (isSign "*") then
      let _ ← accept (isSign "*")
      let _ ← readOperand false fuel
      refuse "cannot use a starred expression in a dictionary value"
    readExpression true fuel

def readEntries : (fuel : Nat) → Reading (List Literal)
  | 0 => fail
  | fuel + 1 => do
    if !(← accept (isSign ",")) then
      expect "\x7d"
      return []
    if ← accept (isSign "\x7d") then return []
    if ← accept (isSign "**") then
      let _ ← readPlain fuel
      return .other :: .other :: (← readEntries fuel)
    let key ← asTrial (readExpression true fuel)
    let value ← readValue fuel
    return key.value :: value.value :: (← readEntries fuel)

/-- A set or a table after its opening bracket. -/
def readBraces : (fuel : Nat) → Reading Expression
  | 0 => fail
  | fuel + 1 => do
    if ← accept (isSign "\x7d") then return { value := .table [], noun := "dict literal" }
    if ← accept (isSign "**") then
      let _ ← readPlain fuel
      return { value := .table (.other :: .other :: (← readEntries fuel)), noun := "dict literal" }
    let e ← readItem fuel
    if ← sees (isSign ":") then
      let value ← readValue fuel
      let more ← readEntries fuel
      return { value := .table (e.value :: value.value :: more), noun := "dict literal" }
    if ← accept (isSign ",") then
      let (es, _) ← readItems "\x7d" fuel
      return { value := .set (e.value :: es.map (·.value)), noun := "set display" }
    expect "\x7d"
    return { value := .set [e.value], noun := "set display" }

def readAtom : (fuel : Nat) → Reading Expression
  | 0 => fail
  | fuel + 1 => do
    match ← left with
    | .number imaginary :: ts =>
      set ts
      return literal (.number imaginary)
    | .text bytes isOpen :: ts => texts bytes isOpen ts
    | .flawed reason :: _ => reject reason
    | .name cs :: ts =>
      let s := String.ofList cs
      if keywords.contains s then fail
      set ts
      if constants.contains s then return { value := .atom, noun := s, isTarget := false }
      return { value := if s == "set" then .setName else .other, noun := "name", isName := true }
    | .sign cs :: ts =>
      match String.ofList cs with
      | "..." =>
        set ts
        return { value := .atom, noun := "ellipsis" }
      | "(" =>
        set ts
        match ← readItems ")" fuel with
        | ([e], false) => return { e with isName := false, isTarget := true }
        | (es, _) =>
          return { value := .tuple (es.map (·.value)), noun := "tuple", isTarget := false }
      | "\x7b" =>
        set ts
        readBraces fuel
      | _ => fail
    | [] => fail

end

/-- The expressions after a comma up to the end. -/
def readRest : (fuel : Nat) → Reading (List Literal)
  | 0 => fail
  | fuel + 1 => do
    if (← left).isEmpty then return []
    let e ← readExpression false fuel
    if ← accept (isSign ",") then return e.value :: (← readRest fuel)
    if (← left).isEmpty then return [e.value] else fail

/-- An expression over all words, or several with commas between them. -/
def readAll (fuel : Nat) : Reading Literal := do
  let e ← readExpression false fuel
  if ← accept (isSign ",") then return .tuple (e.value :: (← readRest fuel))
  if (← left).isEmpty then return e.value else fail

/-- The expression of words, which end with or without an open bracket; a word is reached
through a dozen rules at most. -/
def ofTokens (ts : List Token) (opened : Option Char) : Except String Literal :=
  match ((readAll (16 * (ts.length + 2))).run { opened }).run ts with
  | .ok (value, _) => .ok value
  | .error (.reason text) => .error text
  | .error .unread => .error "invalid syntax"

end Expression

end RuleReview.Console.Markup.Argument
