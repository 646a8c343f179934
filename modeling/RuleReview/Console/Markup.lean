import RuleReview.Console.Emoji
import RuleReview.Console.Markup.Argument
import RuleReview.Console.Markup.Style
import RuleReview.Text.Search

/-! Text with tags in square brackets that set a style. The style itself is not shown: what
is read is the text without its tags, where every closing tag has to match an open one. An
odd number of backslashes before a tag makes it a part of the text. -/

namespace RuleReview.Console.Markup

/-! ### Tags -/

/-- A name, and what follows the first equals sign. -/
structure Tag where
  name : List Char
  parameters : Option (List Char)
  deriving DecidableEq, Repr

def Tag.text (t : Tag) : String :=
  String.ofList ('[' :: t.name ++ (match t.parameters with
    | some ps => '=' :: ps
    | none => []) ++ [']'])

def Tag.ofList (cs : List Char) : Tag where
  name := cs.takeWhile (· != '=')
  parameters := if cs.contains '=' then some ((cs.dropWhile (· != '=')).drop 1) else none

/-- Why tags are refused: nothing is open, or no tag of the name, the arguments of an action, or
a number in the name of a colour. -/
inductive Error
  | nothingOpen (position : Nat)
  | notOpen (tag : Tag) (position : Nat)
  | argument (e : Argument.Error)
  | number (e : Decimal.IntegerError)
  deriving DecidableEq, Repr

def Error.message : Error → String
  | nothingOpen position => s!"closing tag '[/]' at position {position} has nothing to close"
  | notOpen tag position =>
    s!"closing tag '{tag.text}' at position {position} doesn't match any open tag"
  | argument e => e.message
  | number _ => "a part of a colour is no number"

/-- An open tag: its style, and what follows its equals sign. -/
structure Opened where
  style : String
  parameters : Option (List Char)
  deriving DecidableEq, Repr

namespace Opened

def isAction (o : Opened) : Bool := o.style.toList.head? == some '@'

/-- Checks the arguments of an action that is closed. -/
def close (o : Opened) : Except Error Unit :=
  if o.isAction then (Argument.check (o.parameters.getD [])).mapError .argument else .ok ()

end Opened

/-! ### Parts of a text -/

/-- A text, a tag that opens a style, or one that closes a style, where it is. -/
inductive Part
  | plain (cs : List Char)
  | tag (t : Tag) (position : Nat)
  deriving DecidableEq, Repr

def startsTag (c : Char) : Bool := ('a' ≤ c && c ≤ 'z') || c == '#' || c == '/' || c == '@'

/-- The text between an opening bracket and the first closing one, and the rest. -/
def takeTag? (cs : List Char) : Option (List Char × List Char) :=
  match cs with
  | [] => none
  | c :: rest =>
    if startsTag c && rest.contains ']' then
      some (c :: rest.takeWhile (· != ']'), (rest.dropWhile (· != ']')).drop 1)
    else none

/-- What stands before a tag: a text, and of the backslashes at its end every other one. -/
def beforeTag (cs : List Char) : List Part × Bool :=
  let slashes := (cs.reverse.takeWhile (· == '\\')).length
  ([.plain (cs.take (cs.length - slashes)), .plain (List.replicate (slashes / 2) '\\')],
    slashes % 2 == 1)

/-- The parts of a text that was read up to the bracket before each of some texts, the first
of them at a position. -/
def partsFrom (position : Nat) (before : List Char) : List (List Char) → List Part
  | [] => [.plain before]
  | cs :: rest =>
    let next := position + 1 + cs.length
    match takeTag? cs with
    | none => partsFrom next (before ++ '[' :: cs) rest
    | some (body, after) =>
      let (parts, isText) := beforeTag before
      let tag : Part :=
        if isText then .plain ('[' :: body ++ [']']) else .tag (.ofList body) position
      parts ++ tag :: partsFrom next after rest

def parts (cs : List Char) : List Part :=
  match Text.splitOn '[' cs with
  | [] => []
  | before :: rest => partsFrom before.length before rest

/-! ### Reading -/

/-- A text in which a bracket after a backslash is a bracket, and names are pictures. -/
def unescape : List Char → List Char
  | '\\' :: '[' :: cs => '[' :: unescape cs
  | c :: cs => c :: unescape cs
  | [] => []

/-- The last open tag of a style, and the open tags without it. -/
def takeStyle? (style : String) : List Opened → Option (Opened × List Opened)
  | [] => none
  | o :: opened =>
    if o.style == style then some (o, opened)
    else (takeStyle? style opened).map fun (found, rest) => (found, o :: rest)

/-- The open tags after a tag, the last one first. -/
def follow (opened : List Opened) (t : Tag) (position : Nat) : Except Error (List Opened) := do
  match t.name with
  | '/' :: name =>
    if (Text.trim name).isEmpty then
      match opened with
      | [] => throw (.nothingOpen position)
      | last :: rest =>
        last.close
        return rest
    else
      match takeStyle? (← (styleName (Text.trim name)).mapError .number) opened with
      | none => throw (.notOpen t position)
      | some (found, rest) =>
        found.close
        return rest
  | name =>
    return { style := ← (styleName name).mapError .number, parameters := t.parameters } :: opened

def join (opened : List Opened) : List Part → Except Error (List Char)
  | [] => .ok []
  | .plain cs :: ps => do return Emoji.replace (unescape cs) ++ (← join opened ps)
  | .tag t position :: ps => do join (← follow opened t position) ps

/-- Checks the style of an opening tag together with what follows its equals sign. -/
def checkStyle : Part → Except Error Unit
  | .tag { name, parameters := some values } _ =>
    if name.head? == some '/' then .ok ()
    else (do
      let style ← styleName name
      let words := Text.words (style.toList ++ ' ' :: values)
      let _ ← Style.take {} (words.map String.ofList)).mapError .number
  | _ => .ok ()

/-- A text without its tags. -/
def read (s : String) : Except Error (List Char) := do
  let text ← join [] (parts s.toList)
  (parts s.toList).forM checkStyle
  return text

end RuleReview.Console.Markup
