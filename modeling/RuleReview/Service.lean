import RuleReview.Analyzer.Checked
import RuleReview.Report.Json
import RuleReview.Report.Security
import RuleReview.Service.Address
import RuleReview.Service.Task

/-! The analysis as a service: requests with a text to analyze, and their answers. -/

namespace RuleReview.Service

structure Request where
  method : String
  address : String
  body : ByteArray

/-- The body of an answer: a plain text or a value. -/
inductive Body
  | text (s : String)
  | data (d : Data)

structure Response where
  status : Nat
  body : Body

/-- The answer that tells what is wrong. -/
def failed (status : Nat) (message : String) : Response :=
  ⟨status, .data (.object [("error", .text message)])⟩

/-- The answer to a request that is not understood before its path is followed. -/
def refused (status : Nat) (detail : String) : Response :=
  ⟨status, .data (.object [("detail", .text detail)])⟩

inductive Endpoint
  | health
  | review
  | quality
  | security
  | securityReport
  | page (title : String)
  deriving DecidableEq, Repr

namespace Endpoint

def all : List (String × Endpoint) := [
  ("/openapi.json", page "API"), ("/docs", page "API"), ("/docs/oauth2-redirect", page "API"),
  ("/redoc", page "API"), ("/", health), ("/review", review), ("/review/quality", quality),
  ("/owasp-review", security), ("/owasp-review/report", securityReport)]

def methods : Endpoint → List String
  | health => ["GET"]
  | page _ => ["GET", "HEAD"]
  | _ => ["POST"]

/-- The endpoint with exactly a path, after which a line may end. -/
def at? (path : String) : Option Endpoint :=
  all.lookup (if Text.endsWith path "\n" then (path.dropEnd 1).toString else path)

/-- The endpoint of a path; slashes at its end lead to the path without them. -/
def ofPath? (path : String) : Option Endpoint :=
  (at? path).orElse fun _ => at? (String.ofList (Text.dropEndWhile (· == '/') path.toList))

def render (time : String) (a : Analysis) : Endpoint → Data
  | health | page _ => .null
  | review => .object (Report.envelope a)
  | quality => .list (a.quality.map fun i => .object (Report.qualityRecord i))
  | security => .list (a.security.map fun i => .object (Report.securityRecord i))
  | securityReport => .object (Report.security a.security time)

/-- Whether the language that a request names stands in the answer. -/
def namesLanguage : Endpoint → Bool
  | review => true
  | _ => false

end Endpoint

/-- The answer that the server itself gives where the one of an endpoint cannot be sent. -/
def notSent : Response := ⟨500, .text "Internal Server Error"⟩

/-- The answer of an endpoint with an analysis of a text that was said to be in a language. It is
written in UTF-8, which fails where the name of a language holds half of a character. -/
def rendered (time : String) (e : Endpoint) (language : Option (List Text.Letter))
    (a : Analysis) : Response :=
  if e.namesLanguage && language.any Text.isTorn then notSent else ⟨200, .data (e.render time a)⟩

/-- The answer to a task. An analysis that gives nothing has broken down. -/
def perform (analyze : String → Option String → Option Analysis) (time : String) (e : Endpoint)
    (t : Task) : Response :=
  match t.code.filter (fun s => !Text.isBlankText s) with
  | none => failed 400 "Missing or empty code"
  | some code =>
    match analyze code (t.language.map Text.mend) with
    | none => failed 500 "Internal server error"
    | some a => rendered time e t.language a

def answer (analyze : String → Option String → Option Analysis) (time : String) (e : Endpoint)
    (body : ByteArray) : Response :=
  match e with
  | .health => ⟨200, .text "CodeSentry API is running"⟩
  | .page title => ⟨200, .text title⟩
  | e => match Task.read body with
    | .error .invalid => failed 400 "Invalid request body"
    | .error .unreadable => refused 400 "There was an error parsing the body"
    | .ok t => perform analyze time e t

/-- The answer to a request, unless its address leads nowhere. -/
def respond (analyze : String → Option String → Option Analysis) (time : String) (r : Request) :
    Except Address.Error Response := do
  match Endpoint.ofPath? (← Address.path r.address) with
  | none => return refused 404 "Not Found"
  | some e =>
    if e.methods.contains (Text.toUpper r.method) then return answer analyze time e r.body
    else return refused 405 "Method Not Allowed"

def analysisOf (a : Analyzer) (code : String) (language : Option String) : Option Analysis :=
  (a.analyze? code.toList language).toOption

end RuleReview.Service
