import RuleReview.World

/-! Where comments go. A sink knows the keys of the comments it holds, and takes comments on
places of a diff as well as comments on a whole review. -/

namespace RuleReview.Review

structure Comment where
  path : String
  position : Nat
  body : String
  key : String
  deriving DecidableEq, Repr

/-- A place for comments. What it answers to a comment is whether it took it. -/
structure Sink (τ : Type) where
  existing : WorldM τ Fault (List String)
  post : Comment → WorldM τ Fault Bool
  postSummary : (body key : String) → WorldM τ Fault Bool

/-- Comments that are only kept. -/
structure Recorded where
  keys : List String := []
  comments : List Comment := []
  summaries : List String := []
  deriving DecidableEq, Repr

namespace Recorded

def addKey (key : String) (r : Recorded) : Recorded :=
  { r with keys := if key ∈ r.keys then r.keys else r.keys ++ [key] }

def add (c : Comment) (r : Recorded) : Recorded :=
  { r.addKey c.key with comments := r.comments ++ [c] }

def addSummary (body key : String) (r : Recorded) : Recorded :=
  { r.addKey key with summaries := r.summaries ++ [body] }

end Recorded

def Sink.recording : Sink Recorded where
  existing := WorldM.use fun r => (r.keys, r)
  post := fun c => WorldM.use fun r => (true, r.add c)
  postSummary := fun body key => WorldM.use fun r => (true, r.addSummary body key)

end RuleReview.Review
