/-! Items worked on by several workers at once. Items are begun in the order of their list;
which of the items in work is finished next is a matter of choice. A result is kept with the
place of its item, so that results can be told in the order of the items. -/

namespace RuleReview

/-- Items that wait and items in work, each with its place, and the results so far, the last
one first. -/
structure Pool (α β : Type) where
  waiting : List (Nat × α)
  working : List (Nat × α) := []
  finished : List (Nat × β) := []

namespace Pool

variable {α β : Type}

/-- The items of a list with their places, the first of which is given. -/
def placesFrom (place : Nat) : List α → List (Nat × α)
  | [] => []
  | x :: xs => (place, x) :: placesFrom (place + 1) xs

/-- Idle workers begin items. -/
def occupy (workers : Nat) (p : Pool α β) : Pool α β :=
  let idle := workers - p.working.length
  { p with working := p.working ++ p.waiting.take idle, waiting := p.waiting.drop idle }

/-- The item in work on which the choice falls is finished. -/
def finish (f : α → β) (choice : Nat) (p : Pool α β) : Pool α β :=
  let n := choice % p.working.length
  match p.working[n]? with
  | none => p
  | some (place, x) =>
    { p with working := p.working.eraseIdx n, finished := (place, f x) :: p.finished }

/-- The pool after `left` more items; where no choice is made it falls on the item that was
begun first. -/
def run (workers : Nat) (f : α → β) : (left : Nat) → (choices : List Nat) → Pool α β → Pool α β
  | 0, _, p => p
  | left + 1, choices, p =>
    run workers f left choices.tail ((p.occupy workers).finish f (choices.headD 0))

def ofList (workers : Nat) (f : α → β) (choices : List Nat) (xs : List α) : Pool α β :=
  run workers f xs.length choices { waiting := placesFrom 0 xs }

/-- The results in the order in which they came. -/
def arrivals (p : Pool α β) : List β := p.finished.reverse.map (·.2)

/-- The results of `n` items in the order of the items. -/
def results (n : Nat) (p : Pool α β) : List β :=
  (List.range n).filterMap fun place => p.finished.lookup place

end Pool

end RuleReview
