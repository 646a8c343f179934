/-! Values that are written out: numbers, texts, tuples, sets and tables. A member of a set
and a key of a table must not be a set or a table, nor have one in it. -/

namespace RuleReview.Console.Markup.Argument

/-- An expression, of which only a written-out value has a worth. The items of a table are
its keys and values by turns. -/
inductive Literal
  | number (imaginary : Bool)
  | atom
  | tuple (items : List Literal)
  | set (items : List Literal)
  | table (items : List Literal)
  | signed (operand : Literal)
  | sum (left right : Literal)
  | setName
  | other

inductive Kind
  | real
  | complex
  | plain
  | collection (name : String)
  deriving DecidableEq, Repr

/-- Why a value has no worth. -/
inductive Unfit
  | collected (name : String)
  | unwritten
  deriving DecidableEq, Repr

def Unfit.message : Unfit → String
  | collected name => s!"unhashable type: '{name}'"
  | unwritten => "malformed node or string"

namespace Kind

/-- Checks that a value may be a member of a set. -/
def asMember : Kind → Except Unfit Unit
  | collection name => .error (.collected name)
  | _ => .ok ()

def ofTuple (ks : List Kind) : Kind :=
  (ks.find? fun | collection _ => true | _ => false).getD plain

end Kind

namespace Literal

def number? : Literal → Except Unfit Kind
  | number imaginary => .ok (if imaginary then .complex else .real)
  | _ => .error .unwritten

def signed? : Literal → Except Unfit Kind
  | signed e => number? e
  | e => number? e

mutual

def kind : Literal → Except Unfit Kind
  | number imaginary => number? (number imaginary)
  | atom => .ok .plain
  | signed e => number? e
  | sum l r => do
    match ← signed? l, ← number? r with
    | .real, .complex => return .complex
    | _, _ => throw .unwritten
  | tuple items => return .ofTuple (← kinds items)
  | set items => do
    checkMembers items
    return .collection "set"
  | table items => do
    checkItems items
    return .collection "dict"
  | setName | other => .error .unwritten

def kinds : List Literal → Except Unfit (List Kind)
  | [] => .ok []
  | e :: es => do return (← kind e) :: (← kinds es)

def checkMembers : List Literal → Except Unfit Unit
  | [] => .ok ()
  | e :: es => do
    (← kind e).asMember
    checkMembers es

/-- Checks the keys and values of a table. -/
def checkItems : List Literal → Except Unfit Unit
  | k :: v :: es => do
    let key ← kind k
    let _ ← kind v
    key.asMember
    checkItems es
  | _ => .ok ()

end

end Literal

end RuleReview.Console.Markup.Argument
