import RuleReview.Decimal.Integer
import RuleReview.Json.Value
import RuleReview.Text.Numeral

/-! Reading JSON. `NaN`, `Infinity` and `-Infinity` are numbers, a number without
places or exponent is a whole number of any size up to 4300 digits, an object may
repeat a key, and objects and lists stand in each other up to a depth.
Halves of characters that stand alone are kept, in texts as in keys. -/

namespace RuleReview.Json

open Text (Letter)

inductive Container
  | object
  | list
  deriving DecidableEq, Repr

inductive ReadError
  | malformed
  | tooManyDigits (digits : Nat)
  | tooDeep (c : Container)
  deriving DecidableEq, Repr

/-- Blanks between the parts of a value. -/
def isGap (l : Letter) : Bool :=
  l.char == ' ' || l.char == '\t' || l.char == '\n' || l.char == '\r'

/-- The text after the blanks at its front. -/
def skipGaps (ls : List Letter) : List Letter := ls.dropWhile isGap

/-- A unit of 16 bits in four hexadecimal digits. -/
def readUnit : List Letter → Except ReadError (Nat × List Letter)
  | a :: b :: c :: d :: ls =>
    let ds := [a, b, c, d].map Letter.char
    if ds.all Text.isHex then .ok (Text.valueIn 16 ds, ls) else .error .malformed
  | _ => .error .malformed

/-- The letter of a unit just read; a high surrogate takes the low one after it. -/
def readSurrogate (u : Nat) (ls : List Letter) : Letter × List Letter :=
  if 0xd800 ≤ u ∧ u ≤ 0xdbff then
    match ls with
    | .whole '\\' :: .whole 'u' :: rest =>
      match readUnit rest with
      | .ok (v, rest) =>
        if 0xdc00 ≤ v ∧ v ≤ 0xdfff then (.whole (Letter.join u v), rest) else (.ofNat u, ls)
      | .error _ => (.ofNat u, ls)
    | _ => (.ofNat u, ls)
  else (.ofNat u, ls)

def readEscape : List Letter → Except ReadError (Letter × List Letter)
  | .whole '"' :: ls => .ok (.whole '"', ls)
  | .whole '\\' :: ls => .ok (.whole '\\', ls)
  | .whole '/' :: ls => .ok (.whole '/', ls)
  | .whole 'b' :: ls => .ok (.whole '\x08', ls)
  | .whole 'f' :: ls => .ok (.whole '\x0c', ls)
  | .whole 'n' :: ls => .ok (.whole '\n', ls)
  | .whole 'r' :: ls => .ok (.whole '\r', ls)
  | .whole 't' :: ls => .ok (.whole '\t', ls)
  | .whole 'u' :: ls => do
    let (u, rest) ← readUnit ls
    return readSurrogate u rest
  | _ => .error .malformed

/-- A text after its opening mark; `acc` holds the letters so far in reverse. -/
def readText : (fuel : Nat) → (acc : List Letter) → List Letter →
    Except ReadError (List Letter × List Letter)
  | 0, _, _ => .error .malformed
  | _ + 1, _, [] => .error .malformed
  | _ + 1, acc, .whole '"' :: ls => .ok (acc.reverse, ls)
  | fuel + 1, acc, .whole '\\' :: ls =>
    match readEscape ls with
    | .ok (l, rest) => readText fuel (l :: acc) rest
    | .error e => .error e
  | fuel + 1, acc, l :: ls =>
    if l.char.val < 0x20 then .error .malformed else readText fuel (l :: acc) ls

def takeDigits (ls : List Letter) : List Char × List Letter :=
  ((ls.takeWhile (·.char.isDigit)).map Letter.char, ls.dropWhile (·.char.isDigit))

def digitsValue (ds : List Char) : Nat := Decimal.ofDigits (ds.map fun c => c.toNat - 48)

/-- The digits after a point, none where no digit follows it. -/
def takePlaces : List Letter → List Char × List Letter
  | .whole '.' :: ls =>
    match takeDigits ls with
    | ([], _) => ([], .whole '.' :: ls)
    | r => r
  | ls => ([], ls)

/-- An exponent, none where no digit follows its mark. -/
def takeExponent (ls : List Letter) : Option Int × List Letter :=
  match ls with
  | l :: rest =>
    if l.char = 'e' ∨ l.char = 'E' then
      let (negative, after) := match rest with
        | .whole '-' :: r => (true, r)
        | .whole '+' :: r => (false, r)
        | r => (false, r)
      match takeDigits after with
      | ([], _) => (none, ls)
      | (ds, r) =>
        let n : Int := digitsValue ds
        (some (if negative then -n else n), r)
    else (none, ls)
  | [] => (none, ls)

def readNumber (negative : Bool) (ls : List Letter) : Except ReadError (Value × List Letter) :=
  let (whole, rest) := match ls with
    | .whole '0' :: r => (['0'], r)
    | _ => takeDigits ls
  if whole.isEmpty then .error .malformed
  else
    let (places, rest) := takePlaces rest
    let (exponent, rest) := takeExponent rest
    if places.isEmpty && exponent.isNone then
      if Decimal.maxDigits < whole.length then .error (.tooManyDigits whole.length)
      else
        let n : Int := digitsValue whole
        .ok (.integer (if negative then -n else n), rest)
    else
      let e := exponent.getD 0 - places.length
      .ok (.real (.ofScientific negative (digitsValue (whole ++ places)) e), rest)

def words : List (String × Value) := [
  ("null", .null), ("true", .boolean true), ("false", .boolean false), ("NaN", .real .notANumber),
  ("Infinity", .real (.infinity false)), ("-Infinity", .real (.infinity true))]

/-- A value without parts that is not a text. -/
def readScalar (ls : List Letter) : Except ReadError (Value × List Letter) :=
  match words.find? fun w => (Text.lettersOf w.1).isPrefixOf ls with
  | some (word, v) => .ok (v, ls.drop word.length)
  | none =>
    match ls with
    | .whole '-' :: ls => readNumber true ls
    | ls => readNumber false ls

mutual

/-- A value in which `room` containers may stand in each other; every call takes at least
one character, so the length of the text is fuel enough. -/
def readValue : (fuel room : Nat) → List Letter → Except ReadError (Value × List Letter)
  | 0, _, _ => .error .malformed
  | fuel + 1, room, ls =>
    match ls, room with
    | .whole '"' :: rest, _ => do
      let (text, rest) ← readText (rest.length + 1) [] rest
      return (.text text, rest)
    | .whole '[' :: _, 0 => .error (.tooDeep .list)
    | .whole '[' :: rest, room + 1 =>
      match skipGaps rest with
      | .whole ']' :: rest => .ok (.list [], rest)
      | rest => do
        let (vs, rest) ← readItems fuel room rest
        return (.list vs, rest)
    | .whole '\x7b' :: _, 0 => .error (.tooDeep .object)
    | .whole '\x7b' :: rest, room + 1 =>
      match skipGaps rest with
      | .whole '\x7d' :: rest => .ok (.object [], rest)
      | rest => do
        let (ms, rest) ← readMembers fuel room rest
        return (.object (Data.assignAll ms), rest)
    | ls, _ => readScalar ls

def readItems : (fuel room : Nat) → List Letter → Except ReadError (List Value × List Letter)
  | 0, _, _ => .error .malformed
  | fuel + 1, room, ls => do
    let (v, rest) ← readValue fuel room ls
    match skipGaps rest with
    | .whole ']' :: rest => return ([v], rest)
    | .whole ',' :: rest =>
      let (vs, rest) ← readItems fuel room (skipGaps rest)
      return (v :: vs, rest)
    | _ => .error .malformed

/-- The members of an object from one of them on, in the order of the text. -/
def readMembers : (fuel room : Nat) → List Letter →
    Except ReadError (List (List Letter × Value) × List Letter)
  | 0, _, _ => .error .malformed
  | fuel + 1, room, .whole '"' :: ls => do
    let (key, rest) ← readText (ls.length + 1) [] ls
    match skipGaps rest with
    | .whole ':' :: rest =>
      let (v, rest) ← readValue fuel room (skipGaps rest)
      match skipGaps rest with
      | .whole '\x7d' :: rest => return ([(key, v)], rest)
      | .whole ',' :: rest =>
        let (ms, rest) ← readMembers fuel room (skipGaps rest)
        return ((key, v) :: ms, rest)
      | _ => .error .malformed
    | _ => .error .malformed
  | _ + 1, _, _ => .error .malformed

end

/-- How many containers may stand in each other. -/
def maxDepth : Nat := 990

/-- The value of letters that hold one value and blanks around it. -/
def parse (ls : List Letter) : Except ReadError Value :=
  let ls := skipGaps ls
  match readValue (2 * ls.length + 1) maxDepth ls with
  | .ok (v, rest) => if (skipGaps rest).isEmpty then .ok v else .error .malformed
  | .error e => .error e

/-- The value of a text whose texts are taken to be whole: a replacement character stands where half
of a character does. Where such a half decides what happens, the value is parsed and not read. -/
def read (s : String) : Except ReadError Data := (parse (Text.lettersOf s)).map Value.mend

end RuleReview.Json
