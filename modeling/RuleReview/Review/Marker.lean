import RuleReview.Digest
import RuleReview.Data
import RuleReview.Decimal.Integer
import RuleReview.Text.Lines
import RuleReview.Text.Search

/-! Markers: hidden lines in comments that hold the key a comment was posted under, so that
it is found again. A key is made from the place that a comment is about. -/

namespace RuleReview.Review

def commentKey (path : String) (line : Int) : String :=
  String.ofList ((Digest.hex (path ++ "\n" ++ toString line)).take 12)

/-- The key of a comment about findings that are told apart by a text. -/
def summaryKey (fingerprint : String) : String :=
  "summary-" ++ String.ofList ((Digest.hex fingerprint).take 12)

namespace Marker

def tag : String := "codesentry:v1"

def opening : String := "<!-- "

def closing : String := "-->"

def ofComment (key path : String) (line : Int) : String :=
  opening ++ tag ++ s!" key={key} path={path} line={line} " ++ closing

/-- The marker of a comment about findings. -/
def ofSummary (key : String) : String := opening ++ tag ++ s!" key={key} " ++ closing

/-- A text without a front, and then without blanks, where it has that front. -/
def dropFront (front cs : List Char) : List Char :=
  match Text.takeFront? front cs with
  | some rest => Text.trim rest
  | none => cs

/-- A text without an end, and then without blanks, where it has that end. -/
def dropEnd (ending cs : List Char) : List Char :=
  match Text.takeFront? ending.reverse cs.reverse with
  | some rest => Text.trim rest.reverse
  | none => cs

/-- A name and a value with a sign of equality between them, neither of them empty. -/
def readField? (cs : List Char) : Option (String × String) :=
  let name := cs.takeWhile (· != '=')
  match cs.dropWhile (· != '=') with
  | _ :: c :: value =>
    if name.isEmpty then none else some (String.ofList name, String.ofList (c :: value))
  | _ => none

/-- The fields of a marker; a later value for a name takes the place of an earlier one. -/
def fields (marker : String) : List (String × String) :=
  let inner := dropEnd closing.toList (dropFront "<!--".toList (Text.trim marker.toList))
  if tag.toList.isPrefixOf inner then
    Data.assignAll (((Text.words inner).drop 1).filterMap readField?)
  else []

/-- What a line tells about a key: it is no marker that does, or the key it gives, if any. -/
inductive Finding
  | passed
  | found (key : Option String)
  deriving DecidableEq, Repr

/-- The key of fields: the one they hold, else the one made from their place. -/
def keyOf (fs : List (String × String)) : Finding :=
  match Data.lookup "key" fs, Data.lookup "path" fs, Data.lookup "line" fs with
  | some key, _, _ => .found (some key)
  | none, some path, some line =>
    match Decimal.readInteger line with
    | .ok n => .found (some (commentKey path n))
    | .error _ => .found none
  | _, _, _ => .passed

/-- What a line tells about a key. -/
def readLine (line : List Char) : Finding :=
  let s := String.ofList (Text.trim line)
  if Text.startsWith s (opening ++ tag ++ " ") && Text.endsWith s closing then keyOf (fields s)
  else .passed

/-- The key that lines tell; the first line that tells anything decides. -/
def keyOfLines : List (List Char) → Option String
  | [] => none
  | l :: ls =>
    match readLine l with
    | .found key => key
    | .passed => keyOfLines ls

/-- The key that the text of a comment tells. -/
def key? (body : String) : Option String := keyOfLines (Text.breakLines body.toList)

end Marker

end RuleReview.Review
