import RuleReview.Text.Numeral

/-! Dates and times of configuration files. They are recognized and not kept. -/

namespace RuleReview.Toml

/-- Exactly `n` digits as a number between two bounds. -/
def takeField (n low high : Nat) (cs : List Char) : Option (Nat × List Char) :=
  let ds := cs.take n
  let value := Text.valueIn 10 ds
  if ds.length = n ∧ ds.all Char.isDigit ∧ low ≤ value ∧ value ≤ high then
    some (value, cs.drop n)
  else none

/-- A text after a character. -/
def past (c : Char) : List Char → Option (List Char)
  | d :: cs => if d = c then some cs else none
  | [] => none

/-- A text after a time of day. -/
def pastTime (cs : List Char) : Option (List Char) := do
  let (_, cs) ← takeField 2 0 23 cs
  let (_, cs) ← takeField 2 0 59 (← past ':' cs)
  let (_, cs) ← takeField 2 0 59 (← past ':' cs)
  match cs with
  | '.' :: c :: rest => if c.isDigit then return rest.dropWhile Char.isDigit else return cs
  | _ => return cs

/-- A text after the offset of a time, if there is one. -/
def pastOffset : List Char → List Char
  | c :: cs =>
    if c = 'Z' ∨ c = 'z' then cs
    else if c = '+' ∨ c = '-' then
      let rest := do
        let (_, cs) ← takeField 2 0 23 cs
        let (_, cs) ← takeField 2 0 59 (← past ':' cs)
        return cs
      rest.getD (c :: cs)
    else c :: cs
  | [] => []

def daysIn (year month : Nat) : Nat :=
  if month = 2 then
    if year % 4 = 0 ∧ (year % 100 ≠ 0 ∨ year % 400 = 0) then 29 else 28
  else if month = 4 ∨ month = 6 ∨ month = 9 ∨ month = 11 then 30 else 31

/-- Whether there is a day of that date, and the text after the date and its time. -/
def pastDate (cs : List Char) : Option (Bool × List Char) := do
  let (year, cs) ← takeField 4 0 9999 cs
  let (month, cs) ← takeField 2 1 12 (← past '-' cs)
  let (day, cs) ← takeField 2 1 31 (← past '-' cs)
  let valid := 1 ≤ year && day ≤ daysIn year month
  match cs with
  | c :: rest =>
    if c = 'T' ∨ c = 't' ∨ c = ' ' then
      match pastTime rest with
      | some after => return (valid, pastOffset after)
      | none => return (valid, cs)
    else return (valid, cs)
  | [] => return (valid, cs)

end RuleReview.Toml
