import RuleReview.Decimal.Integer
import RuleReview.Text.CharacterName
import RuleReview.Text.Word
import RuleReview.Text.Numeral
import RuleReview.Text.Quoted
import RuleReview.Text.Search
import RuleReview.Text.Utf8

/-! The words of a value that is written in a tag: names, numbers, quoted texts and signs. In a
quoted text characters may stand by number or by name. A flaw there is told with the place of the
escape, where each character beyond the first 128 takes ten places. -/

namespace RuleReview.Console.Markup.Argument

/-! ### Escapes -/

def placesOf (c : Char) : Nat := if c.val < 0x80 then 1 else 10

/-- An escape of characters that cannot be read, its first and last place. -/
def unreadable (first past : Nat) (reason : String) : String :=
  s!"(unicode error) 'unicodeescape' codec can't decode bytes in position {first}-{past - 1}: "
    ++ reason

/-- Checks an escape of a number of hexadecimal digits at a place. -/
def flawOfNumber? (place count : Nat) (kind : String) (cs : List Char) : Option String :=
  let digits := (cs.take count).takeWhile Text.isHex
  let past := place + 2 + digits.length
  if digits.length < count then some (unreadable place past s!"truncated \\{kind} escape")
  else if 0x10ffff < Text.valueIn 16 digits then
    some (unreadable place past "illegal Unicode character")
  else none

def flawOfName? (isNamed : List Char → Bool) (place : Nat) (cs : List Char) : Option String :=
  let malformed (past : Nat) := some (unreadable place past "malformed \\N character escape")
  match cs with
  | '\x7b' :: cs =>
    let name := cs.takeWhile (· != '\x7d')
    let past := place + 3 + (name.map placesOf).foldl (· + ·) 0
    if name.length == cs.length || name.isEmpty then malformed past
    else if isNamed name then none
    else some (unreadable place (past + 1) "unknown Unicode character name")
  | _ => malformed (place + 2)

def flawOfText? (isNamed : List Char → Bool) (place : Nat) : List Char → Option String
  | '\\' :: c :: cs =>
    let flaw :=
      if c == 'x' then flawOfNumber? place 2 "xXX" cs
      else if c == 'u' then flawOfNumber? place 4 "uXXXX" cs
      else if c == 'U' then flawOfNumber? place 8 "UXXXXXXXX" cs
      else if c == 'N' then flawOfName? isNamed place cs
      else none
    let escape := if c.val < 0x80 then 2 else 16
    match flaw with
    | some _ => flaw
    | none => flawOfText? isNamed (place + escape) cs
  | c :: cs => flawOfText? isNamed (place + placesOf c) cs
  | [] => none

def flawOfBytes? (place : Nat) : List Char → Option String
  | '\\' :: c :: cs =>
    if c == 'x' && ((cs.take 2).takeWhile Text.isHex).length < 2 then
      some s!"(value error) invalid \\x escape at position {place}"
    else flawOfBytes? (place + 2) cs
  | _ :: cs => flawOfBytes? (place + 1) cs
  | [] => none

/-! ### Kinds of words -/

/-- A word. A text may be one of bytes, and may have parts that are still to be filled in. What
is flawed has no value, for a reason. -/
inductive Token
  | name (cs : List Char)
  | number (imaginary : Bool)
  | text (bytes isOpen : Bool)
  | flawed (reason : String)
  | sign (cs : List Char)
  deriving DecidableEq, Repr

/-- The reading of words: the words, or why there are none. -/
abbrev Scan (α : Type) := Except String α

/-! ### Numbers -/

/-- The digits at the front of a text, with single low lines between them. -/
def takeDigits (isDigit : Char → Bool) : List Char → Option (List Char × List Char)
  | c :: '_' :: d :: cs =>
    if !isDigit c then none
    else if isDigit d then (takeDigits isDigit (d :: cs)).map fun (ds, rest) => (c :: ds, rest)
    else some ([c], '_' :: d :: cs)
  | c :: cs =>
    if isDigit c then
      match takeDigits isDigit cs with
      | some (ds, rest) => some (c :: ds, rest)
      | none => some ([c], cs)
    else none
  | [] => none

/-- Words that may follow a number at once. -/
def followers : List String := ["and", "else", "for", "if", "in", "is", "not", "or"]

def endNumber (kind : String) (rest : List Char) : Scan Unit :=
  match rest with
  | c :: _ =>
    if (Text.isInName c || c == '_') && !followers.any (fun w => w.toList.isPrefixOf rest) then
      throw s!"invalid {kind} literal"
    else return
  | [] => return

/-- A number of a base other than ten. -/
def takeBased (kind : String) (isDigit : Char → Bool) (cs : List Char) :
    Scan (Token × List Char) := do
  let cs := if cs.head? == some '_' then cs.drop 1 else cs
  match takeDigits isDigit cs with
  | none =>
    match cs with
    | c :: _ =>
      if c.isDigit then
        throw s!"invalid digit {Text.quoted (String.singleton c)} in {kind} literal"
    | [] => pure ()
    throw s!"invalid {kind} literal"
  | some (_, rest) =>
    if let c :: _ := rest then
      if c.isDigit then throw s!"invalid digit {Text.quoted (String.singleton c)} in {kind} literal"
    endNumber kind rest
    return (.number false, rest)

def dropFraction : List Char → Bool × List Char
  | '.' :: cs => (true, ((takeDigits Char.isDigit cs).map (·.2)).getD cs)
  | cs => (false, cs)

def dropExponent (cs : List Char) : Bool × List Char :=
  match cs with
  | e :: rest =>
    if e == 'e' || e == 'E' then
      let digits := if rest.head?.any fun c => c == '+' || c == '-' then rest.drop 1 else rest
      match takeDigits Char.isDigit digits with
      | some (_, rest) => (true, rest)
      | none => (false, cs)
    else (false, cs)
  | [] => (false, [])

/-- Why a whole number must not start with a zero. -/
def leadingZeros : String :=
  "leading zeros in decimal integer literals are not permitted; use an 0o prefix for octal integers"

/-- Why a whole number has too many digits. -/
def tooLong (digits : Nat) : String :=
  Decimal.tooLongText digits ++ " - Consider hexadecimal for huge integer literals to avoid "
    ++ "decimal conversion limits."

def takeNumber (cs : List Char) : Scan (Token × List Char) := do
  match cs with
  | '0' :: x :: rest =>
    if x == 'x' || x == 'X' then return ← takeBased "hexadecimal" Text.isHex rest
    if x == 'o' || x == 'O' then return ← takeBased "octal" Text.isOctal rest
    if x == 'b' || x == 'B' then
      return ← takeBased "binary" (fun c => c == '0' || c == '1') rest
  | _ => pure ()
  let (ds, rest) := (takeDigits Char.isDigit cs).getD ([], cs)
  let (hasPoint, rest) := dropFraction rest
  let (hasExponent, rest) := dropExponent rest
  let imaginary := rest.head?.any fun c => c == 'j' || c == 'J'
  let rest := if imaginary then rest.drop 1 else rest
  if ds.head? == some '0' && ds.any (· != '0') && !hasPoint && !hasExponent && !imaginary then
    throw leadingZeros
  endNumber (if imaginary then "imaginary" else "decimal") rest
  if Decimal.maxDigits < ds.length && !hasPoint && !hasExponent && !imaginary then
    return (.flawed (tooLong ds.length), rest)
  return (.number imaginary, rest)

/-! ### Texts -/

/-- What follows a quoted text up to its closing mark, which is one or three of a character. -/
def pastText (mark : Char) (long : Bool) : List Char → Option (List Char × List Char)
  | [] => none
  | '\\' :: c :: cs => (pastText mark long cs).map fun (body, rest) => ('\\' :: c :: body, rest)
  | c :: cs =>
    if long then
      if [mark, mark, mark].isPrefixOf (c :: cs) then some ([], cs.drop 2)
      else (pastText mark long cs).map fun (body, rest) => (c :: body, rest)
    else if c == mark then some ([], cs)
    else if c == '\n' then none
    else (pastText mark long cs).map fun (body, rest) => (c :: body, rest)

/-- The value of a quoted text with some letters before it. -/
def ofBody (front body : List Char) : Token :=
  let has (c : Char) := front.any fun d => d.toLower == c
  let flaw :=
    if has 'b' && body.any (0x80 ≤ ·.val) then
      some "bytes can only contain ASCII literal characters"
    else if has 'r' || has 'f' then none
    else if has 'b' then flawOfBytes? 0 body
    else flawOfText? (fun name => (Text.named? name).isSome) 0 body
  match flaw with
  | some reason => .flawed reason
  | none => .text (has 'b') (has 'f')

/-- A quoted text after the letters before it. -/
def takeText (front : List Char) (cs : List Char) : Scan (Token × List Char) :=
  match cs with
  | [] => throw "invalid syntax"
  | mark :: rest =>
    let long := [mark, mark, mark].isPrefixOf cs
    match pastText mark long (if long then rest.drop 2 else rest) with
    | some (body, rest) => return (ofBody front body, rest)
    | none =>
      throw ((if long then "unterminated triple-quoted string literal"
          else "unterminated string literal")
        ++ " (detected at line 1)")

/-- What may stand in front of a quoted text, in small letters. -/
def fronts : List String := ["", "b", "r", "u", "f", "br", "rb", "fr", "rf"]

/-- Whether a quoted text follows some letters. -/
def isFront (letters : List Char) (rest : List Char) : Bool :=
  fronts.contains (String.ofList (letters.map Char.toLower))
    && rest.head?.any fun c => c == '\'' || c == '"'

/-! ### Words -/

def closing : Char → Char
  | '(' => ')'
  | '[' => ']'
  | _ => '}'

def longSigns : List String := [
  "...", "**=", "//=", ">>=", "<<=", "**", "//", ">>", "<<", "==", "!=", "<=", ">=", "->", ":=",
  "+=", "-=", "*=", "/=", "%=", "&=", "|=", "^=", "@="]

def takeSign (cs : List Char) : List Char × List Char :=
  match longSigns.find? fun s => s.toList.isPrefixOf cs with
  | some s => (s.toList, cs.drop s.length)
  | none => (cs.take 1, cs.drop 1)

def follow (opened : List Char) (sign : List Char) : Scan (List Char) :=
  match sign with
  | [c] =>
    if c == '(' || c == '[' || c == '{' then return c :: opened
    else if c == ')' || c == ']' || c == '}' then
      match opened with
      | [] => throw s!"unmatched '{c}'"
      | b :: rest =>
        if closing b == c then return rest
        else throw s!"closing parenthesis '{c}' does not match opening parenthesis '{b}'"
    else return opened
  | _ => return opened

/-- Why a character is no part of any word. -/
def foreign (c : Char) : String :=
  let n := "U+" ++ String.ofList ((Text.hexDigits c.toNat (if c.toNat < 0x10000 then 4 else 6)).map
    Char.toUpper)
  if Text.isPrintable c then s!"invalid character '{c}' ({n})"
  else s!"invalid non-printable character {n}"

/-- The words of a text, after some brackets, and the brackets that are open at its end; every
step takes a character, so the length of the text is fuel enough. -/
def scan : (fuel : Nat) → (opened : List Char) → List Char → Scan (List Token × List Char)
  | 0, opened, _ => return ([], opened)
  | fuel + 1, opened, cs =>
    let add (t : Token) (opened : List Char) (after : List Char) := do
      let (ts, opened) ← scan fuel opened after
      return (t :: ts, opened)
    match cs with
    | [] => return ([], opened)
    | c :: rest => do
      if c == ' ' || c == '\t' || c == '\x0c' then scan fuel opened rest
      else if c == '#' then scan fuel opened (rest.dropWhile (· != '\n'))
      else if c == '\n' then
        if opened.isEmpty && !rest.all (fun d => d == ' ' || d == '\t' || d == '\n') then
          add (.sign [c]) opened rest
        else scan fuel opened rest
      else if c == '\\' then
        match rest with
        | '\n' :: rest => scan fuel opened rest
        | _ => throw "unexpected character after line continuation character"
      else if Text.startsName c then
        let letters := cs.takeWhile Text.isInName
        let after := cs.drop letters.length
        if isFront letters after then
          let (t, after) ← takeText letters after
          add t opened after
        else add (.name letters) opened after
      else if c.isDigit || (c == '.' && rest.head?.any Char.isDigit) then
        let (t, after) ← takeNumber cs
        add t opened after
      else if c == '\'' || c == '"' then
        let (t, after) ← takeText [] cs
        add t opened after
      else if 0x80 ≤ c.val then throw (foreign c)
      else
        let (sign, after) := takeSign cs
        add (.sign sign) (← follow opened sign) after

/-- The words of a text, and the last of its brackets that is open at its end. -/
def tokens (cs : List Char) : Scan (List Token × Option Char) := do
  let (ts, opened) ← scan (cs.length + 1) [] cs
  return (ts, opened.head?)

end RuleReview.Console.Markup.Argument
