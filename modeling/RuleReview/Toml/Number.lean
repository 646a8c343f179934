import RuleReview.Data
import RuleReview.Decimal.Integer
import RuleReview.Text.Numeral
import RuleReview.Toml.Text

/-! Numbers of configuration files, in four bases. -/

namespace RuleReview.Toml

/-- More digits, with single low lines between them. -/
def moreDigits (p : Char → Bool) : List Char → List Char × List Char
  | '_' :: c :: cs =>
    if p c then
      let (ds, rest) := moreDigits p cs
      (c :: ds, rest)
    else ([], '_' :: c :: cs)
  | c :: cs =>
    if p c then
      let (ds, rest) := moreDigits p cs
      (c :: ds, rest)
    else ([], c :: cs)
  | [] => ([], [])

/-- Digits of which the first one is not a low line. -/
def takeDigits (p : Char → Bool) : List Char → List Char × List Char
  | c :: cs =>
    if p c then
      let (ds, rest) := moreDigits p cs
      (c :: ds, rest)
    else ([], c :: cs)
  | [] => ([], [])

def readBased (base : Nat) (p : Char → Bool) (cs : List Char) : Option (Data × List Char) :=
  match takeDigits p cs with
  | ([], _) => none
  | (ds, rest) => some (.integer (Text.valueIn base ds), rest)

/-- The places after a point, none where no digit follows it. -/
def takePlaces : List Char → List Char × List Char
  | '.' :: cs =>
    match takeDigits Char.isDigit cs with
    | ([], _) => ([], '.' :: cs)
    | r => r
  | cs => ([], cs)

def takeSign : List Char → Bool × List Char
  | '-' :: cs => (true, cs)
  | '+' :: cs => (false, cs)
  | cs => (false, cs)

/-- An exponent, none where no digit follows its mark. -/
def takeExponent : List Char → Option Int × List Char
  | c :: cs =>
    if c = 'e' ∨ c = 'E' then
      let (negative, after) := takeSign cs
      match takeDigits Char.isDigit after with
      | ([], _) => (none, c :: cs)
      | (ds, rest) =>
        let n : Int := Text.valueIn 10 ds
        (some (if negative then -n else n), rest)
    else (none, c :: cs)
  | [] => (none, [])

/-- The digits before the point: a zero, or digits that start with another one. -/
def takeWhole : List Char → List Char × List Char
  | '0' :: cs => (['0'], cs)
  | cs => takeDigits Char.isDigit cs

def readDecimal (cs : List Char) : Except ReadError (Data × List Char) :=
  let (negative, rest) := takeSign cs
  let (whole, rest) := takeWhole rest
  if whole.isEmpty then .error .malformed
  else
    let (places, rest) := takePlaces rest
    let (exponent, rest) := takeExponent rest
    if places.isEmpty ∧ exponent.isNone then
      if Decimal.maxDigits < whole.length then .error (.tooManyDigits whole.length)
      else
        let n : Int := Text.valueIn 10 whole
        .ok (.integer (if negative then -n else n), rest)
    else
      let e := exponent.getD 0 - places.length
      .ok (.real (.ofScientific negative (Text.valueIn 10 (whole ++ places)) e), rest)

def readSpecial : List Char → Option (Data × List Char)
  | 'i' :: 'n' :: 'f' :: cs | '+' :: 'i' :: 'n' :: 'f' :: cs =>
    some (.real (.infinity false), cs)
  | '-' :: 'i' :: 'n' :: 'f' :: cs => some (.real (.infinity true), cs)
  | 'n' :: 'a' :: 'n' :: cs | '+' :: 'n' :: 'a' :: 'n' :: cs | '-' :: 'n' :: 'a' :: 'n' :: cs =>
    some (.real .notANumber, cs)
  | _ => none

def readNumber (cs : List Char) : Except ReadError (Data × List Char) :=
  let based := match cs with
    | '0' :: 'x' :: rest => readBased 16 Text.isHex rest
    | '0' :: 'b' :: rest => readBased 2 (fun c => c == '0' || c == '1') rest
    | '0' :: 'o' :: rest => readBased 8 Text.isOctal rest
    | _ => none
  match based with
  | some r => .ok r
  | none =>
    match readDecimal cs, readSpecial cs with
    | .error .malformed, some r => .ok r
    | r, _ => r

end RuleReview.Toml
