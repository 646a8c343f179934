import RuleReview.Log

/-! Steps that deal with something outside whose answers may depend on all that happened
before. They keep a journal too, and may stop. -/

namespace RuleReview

abbrev WorldM (τ ε : Type) := ExceptT ε (StateM (τ × Journal))

namespace WorldM

def use {τ ε α : Type} (f : τ → α × τ) : WorldM τ ε α := fun (t, j) =>
  let (a, t) := f t
  (.ok a, (t, j))

/-- A step that does not deal with the world. -/
def ofLog {τ ε α : Type} (m : LogM ε α) : WorldM τ ε α := fun (t, j) =>
  let (r, j) := m j
  (r, (t, j))

def focus {τ τ' ε α : Type} (part : τ → τ') (replace : τ' → τ → τ) (m : WorldM τ' ε α) :
    WorldM τ ε α := fun (t, j) =>
  let (r, (t', j)) := m (part t, j)
  (r, (replace t' t, j))

/-- A step of another world; the answer comes with that world after it. -/
def within {τ τ' ε α : Type} (world : τ') (m : WorldM τ' ε α) : WorldM τ ε (α × τ') := fun (t, j) =>
  match m (world, j) with
  | (.ok a, (world, j)) => (.ok (a, world), (t, j))
  | (.error e, (_, j)) => (.error e, (t, j))

/-- Runs a step of which no stop is let through: what it stops for becomes the result. -/
def attempt {τ ε ε' α : Type} (m : WorldM τ ε α) : WorldM τ ε' (Except ε α) := fun s =>
  let (r, s) := m s
  (.ok r, s)

/-- Runs a step with the causes of its stops told in other words. -/
def mapError {τ ε ε' α : Type} (f : ε → ε') (m : WorldM τ ε α) : WorldM τ ε' α := fun s =>
  match m s with
  | (.ok a, s) => (.ok a, s)
  | (.error e, s) => (.error (f e), s)

def outcome {τ ε α : Type} (m : WorldM τ ε α) (world : τ) : Except ε α × τ × Journal :=
  m.run.run (world, {})

end WorldM

end RuleReview
