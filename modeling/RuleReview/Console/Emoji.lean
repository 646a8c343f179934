import RuleReview.Text.Blank
import RuleReview.Text.Case
import RuleReview.Text.Lines
import RuleReview.Text.Table.Emoji

/-! Pictures by name. A name between two colons stands for its picture; a name nobody knows
stands for itself, and its second colon opens no other name. -/

namespace RuleReview.Console.Emoji

/-- The picture after its name in a list of both in turn. -/
def pictureIn (name : List Char) : List (List Char) → Option (List Char)
  | key :: picture :: rest => if key = name then some picture else pictureIn name rest
  | _ => none

def picture? (name : List Char) : Option (List Char) :=
  Text.Table.emoji.findSome? fun row => pictureIn name (Text.splitOn ' ' row.toList)

/-- How a picture is to be shown: as the name says after a hyphen, in text or in colour. -/
def variants : List (List Char × Char) :=
  [("-emoji".toList, '\ufe0f'), ("-text".toList, '\ufe0e')]

/-- A name without the way it is to be shown, and the mark of that way. -/
def takeVariant (name : List Char) : List Char × List Char :=
  match variants.find? fun (ending, _) => ending.isSuffixOf name with
  | some (ending, mark) => (name.take (name.length - ending.length), [mark])
  | none => (name, [])

def shown (name : List Char) : List Char :=
  let (bare, mark) := takeVariant name
  match picture? (Text.lower bare) with
  | some picture => picture ++ mark
  | none => ':' :: name ++ [':']

/-- The parts of a text that follow a colon, with names replaced. -/
def replaceParts : List (List Char) → List Char
  | [] => []
  | [part] => ':' :: part
  | name :: part :: parts =>
    if name.any Text.isBlank then ':' :: name ++ replaceParts (part :: parts)
    else shown name ++ part ++ replaceParts parts

/-- A text with names replaced by pictures. -/
def replace (cs : List Char) : List Char :=
  match Text.splitOn ':' cs with
  | [] => []
  | part :: parts => part ++ replaceParts parts

end RuleReview.Console.Emoji
