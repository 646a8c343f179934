import RuleReview.Pattern.Term
import RuleReview.Text.Numeral
import RuleReview.Decimal.Integer

/-! Steps of reading a pattern. A backslash and the character after it are read together, and a
backslash at the end is refused as soon as it is next. Repetitions are read with their bounds and
how much they take. -/

namespace RuleReview.Pattern

inductive Error
  | malformed
  | repeatTooLarge
  | flagsClash
  | countTooLong (digits : Nat)
  deriving DecidableEq, Repr

/-- A character, a backslash with the character after it, or a backslash at the end. -/
inductive Token
  | plain (c : Char)
  | escaped (c : Char)
  | dangling
  deriving DecidableEq, Repr

def tokens : List Char → List Token
  | [] => []
  | ['\\'] => [.dangling]
  | '\\' :: c :: cs => .escaped c :: tokens cs
  | c :: cs => .plain c :: tokens cs

/-- What is left to read and what has been read. A group has a width once it is closed. -/
structure State where
  rest : List Token
  flags : Flags
  allScripts : Bool := false
  template : Bool := false
  widths : Array (Option Term.Width) := #[]
  names : List (String × Nat) := []
  behindFrom : Option Nat := none
  greatestCondition : Nat := 0
  repeats : Bool := false

abbrev Reader := StateT State (Except Error)

def refuse : Reader α := throw .malformed

def peek : Reader (Option Token) := return (← get).rest.head?

/-- Whether a backslash at the end is next. -/
def atDangling (ts : List Token) : Bool := ts.head? == some .dangling

/-- Goes past the next token. A backslash at the end is noticed as soon as it is next. -/
def advance : Reader Unit := do
  let ts := (← get).rest.drop 1
  if atDangling ts then refuse else modify fun s => { s with rest := ts }

/-- The next token, and goes past it. -/
def take : Reader (Option Token) := do
  let t ← peek
  advance
  return t

/-- Goes past a character if it is next. -/
def accept (c : Char) : Reader Bool := do
  if (← peek) = some (.plain c) then
    advance
    return true
  else return false

/-- Goes past a character that has to be next. -/
def expect (c : Char) : Reader Unit := do
  unless ← accept c do refuse

/-- At most `n` characters that satisfy `p`. -/
def takeSome (p : Char → Bool) : (n : Nat) → Reader (List Char)
  | 0 => return []
  | n + 1 => do
    match ← peek with
    | some (.plain c) =>
      if p c then
        advance
        return c :: (← takeSome p n)
      else return []
    | _ => return []

/-- The text up to a character, which is passed; a backslash stays with its character. -/
def takeUntil (stop : Char) : (fuel : Nat) → Reader (List Char)
  | 0 => refuse
  | fuel + 1 => do
    match ← take with
    | some (.plain c) => if c = stop then return [] else return c :: (← takeUntil stop fuel)
    | some (.escaped c) => return '\\' :: c :: (← takeUntil stop fuel)
    | _ => refuse

/-- A name up to a character, at least one character long. -/
def takeName (stop : Char) : Reader String := do
  let cs ← takeUntil stop ((← get).rest.length + 1)
  if cs.isEmpty then refuse else return String.ofList cs

def nextGroup : Reader Nat := return (← get).widths.size + 1

/-- Whether a group has been closed. -/
def isClosed (g : Nat) : Reader Bool := return ((← get).widths.getD (g - 1) none).isSome

/-- Inside an assertion about what stands before, only groups closed ahead of it count. -/
def checkBehind (g : Nat) : Reader Unit := do
  if let some limit := (← get).behindFrom then
    unless (← isClosed g) && g < limit do refuse

def groupWidth (widths : Array (Option Term.Width)) (g : Nat) : Term.Width :=
  (widths.getD (g - 1) none).getD (0, 0)

/-! ### Repetitions -/

def readCount (ds : List Char) : Reader Nat := do
  if Decimal.maxDigits < ds.length then throw (.countTooLong ds.length)
  let n := Text.valueIn 10 ds
  if n ≥ Term.repeatLimit then throw .repeatTooLarge
  return n

/-- The bounds after an opening brace, or none where the brace is a character. -/
def readBounds : Reader (Option (Nat × Option Nat)) := do
  let before ← get
  if (← peek) = some (.plain '\x7d') then return none
  let fuel := before.rest.length
  let low ← takeSome Char.isDigit fuel
  let high ← if ← accept ',' then takeSome Char.isDigit fuel else pure low
  unless ← accept '\x7d' do
    modify fun _ => before
    return none
  let least ← if low.isEmpty then pure 0 else readCount low
  if high.isEmpty then return some (least, none)
  let most ← readCount high
  if most < least then refuse
  return some (least, some most)

/-- How much a repetition takes, after its bounds. -/
def readGreed : Reader Greed := do
  if ← accept '?' then return .lazy
  if ← accept '+' then return .possessive
  return .greedy

/-- The last of the parts so far, which are in reverse, repeated. Anchors and repetitions are not
repeated. -/
def repeatLast (least : Nat) (most : Option Nat) : List Term → Reader (List Term)
  | [] | .anchor _ :: _ | .repeated .. :: _ => refuse
  | a :: before => do
    let greed ← readGreed
    modify fun s => { s with repeats := true }
    return .repeated greed least most a.unpacked :: before

end RuleReview.Pattern
