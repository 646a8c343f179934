/-! Tables over code points: a set is a list of inclusive ranges and a map is a
list of runs, both in ascending order, so that a search stops at the first entry
past the character it looks for. -/

namespace RuleReview.Text

/-- Inclusive ranges of code points in ascending order. -/
abbrev Ranges := List (Nat × Nat)

/-- Whether a code point lies in one of the ranges. -/
def Ranges.contains : Ranges → Nat → Bool
  | [], _ => false
  | (first, last) :: rest, c =>
    if c < first then false else c ≤ last || Ranges.contains rest c

/-- Every `step`-th code point from `first` to `last` is moved by `shift`. -/
structure Run where
  first : Nat
  last : Nat
  step : Nat
  shift : Int

/-- Disjoint runs in ascending order. -/
abbrev Runs := List Run

/-- Whether the run moves the code point. -/
def Run.moves (r : Run) (c : Nat) : Bool :=
  r.first ≤ c && c ≤ r.last && (c - r.first) % r.step == 0

/-- The code point to which a code point is moved, itself where no run moves it. -/
def Runs.apply : Runs → Nat → Nat
  | [], c => c
  | r :: rest, c =>
    if c < r.first then c
    else if r.moves c then ((c : Int) + r.shift).toNat
    else Runs.apply rest c

/-- The code points other than `c` that the runs move to `c`. -/
def Runs.sources (runs : Runs) (c : Nat) : List Nat :=
  runs.filterMap fun r =>
    let origin := ((c : Int) - r.shift).toNat
    if r.moves origin && (origin : Int) + r.shift == (c : Int) then some origin else none

end RuleReview.Text
