import RuleReview.Json.Reader
import RuleReview.Text.Encoding

/-! What the body of a request asks to be analyzed. -/

namespace RuleReview.Service

/-- A text to analyze, with replacement characters for halves of characters, and the language it
is said to be in. -/
structure Task where
  code : Option String
  language : Option (List Text.Letter)
  deriving DecidableEq, Repr

/-- Why a body is no task: it does not have the form of one, or cannot be taken apart. -/
inductive BodyError
  | invalid
  | unreadable
  deriving DecidableEq, Repr

namespace Task

def optionalText (key : String) (v : Json.Value) : Except BodyError (Option (List Text.Letter)) :=
  match v.get? key with
  | none | some .null => .ok none
  | some (.text ls) => .ok (some ls)
  | some _ => .error .invalid

def ofValue : Json.Value → Except BodyError Task
  | .object ms => do
    let code ← optionalText "code" (.object ms)
    let language ← optionalText "language" (.object ms)
    return ⟨code.map Text.mend, language⟩
  | _ => .error .invalid

def read (body : ByteArray) : Except BodyError Task :=
  match Text.decodeDetected? body with
  | none => .error .unreadable
  | some ls =>
    match Json.parse ls with
    | .error .malformed => .error .invalid
    | .error _ => .error .unreadable
    | .ok v => ofValue v

end Task

end RuleReview.Service
