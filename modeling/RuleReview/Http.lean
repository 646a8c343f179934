import RuleReview.Fault
import RuleReview.Json.Writer
import RuleReview.Text.Blank
import RuleReview.Text.Utf8
import RuleReview.World

/-! Requests to a server that speaks JSON, and when they are sent again. A failed request
is sent again after a pause that doubles each time. The address of a request may be wrapped as
addresses in running text are: in blanks, in angle brackets and under the word `URL:`. -/

namespace RuleReview.Http.Address

/-- A text without the angle brackets around it. -/
def withoutBrackets (cs : List Char) : List Char :=
  match cs, cs.getLast? with
  | '<' :: rest, some '>' => Text.trim rest.dropLast
  | _, _ => cs

def withoutWord : List Char → List Char
  | 'U' :: 'R' :: 'L' :: ':' :: rest => Text.trim rest
  | cs => cs

def withoutEmptyFragment (cs : List Char) : List Char :=
  if cs.getLast? == some '#' then cs.dropLast else cs

/-- Whether an address starts with the name of a scheme. -/
def hasScheme (cs : List Char) : Bool :=
  let name := cs.takeWhile fun c => c != '/' && c != ':'
  !name.isEmpty && (cs.drop name.length).head? == some ':'

/-- The address in a text. It starts with a scheme, which its fragment is not part of. -/
def read (s : String) : Except Fault String :=
  let cs := withoutEmptyFragment (withoutWord (withoutBrackets (Text.trim s.toList)))
  let bare := if cs.contains '#' then ((cs.reverse.dropWhile (· != '#')).drop 1).reverse else cs
  if hasScheme bare then .ok (String.ofList cs) else .error (.noScheme (String.ofList cs))

end RuleReview.Http.Address

namespace RuleReview.Http

/-- What a request asks for: a value, or to take one. -/
inductive Verb
  | get
  | post
  deriving DecidableEq, Repr

def Verb.name : Verb → String
  | .get => "GET"
  | .post => "POST"

/-- A request. It is given up after a number of seconds. -/
structure Request where
  verb : Verb
  url : String
  authorization : Option String := none
  timeout : Data
  payload : Option Data := none

/-- What comes back: the answer that a chain of redirections ends with, or none, where no connection
is had or no answer comes in time. A connection that breaks off under an answer is left out. -/
inductive Reply
  | answer (status : Nat) (body : ByteArray)
  | unreachable
  | timedOut

/-- Whether a status tells that a request was met. -/
def isSuccess (status : Nat) : Bool := 200 ≤ status && status < 300

def Reply.outcome : Reply → Except Fault ByteArray
  | .answer status body => if isSuccess status then .ok body else .error (.refused status)
  | .unreachable => .error .unreachable
  | .timedOut => .error .timedOut

/-- What a client did: it sent a request, or waited. -/
inductive Event
  | request (r : Request)
  | pause (seconds : Rat)

/-- A server whose answers depend on a state that requests may change, and a source of the
shares, from zero to one, that the random parts of pauses take. -/
structure Client (σ : Type) where
  respond : Request → σ → Reply × σ
  share : σ → Rat × σ

/-- The state of a server, and what was done so far. -/
structure Connection (σ : Type) where
  server : σ
  events : List Event := []

/-- A step that may send requests. -/
abbrev HttpM (σ : Type) := WorldM (Connection σ) Fault

def send (c : Client σ) (r : Request) : HttpM σ Reply :=
  WorldM.use fun k =>
    let (reply, server) := c.respond r k.server
    (reply, ⟨server, k.events ++ [.request r]⟩)

def isPassing (status : Int) : Bool := status == 429 || (500 ≤ status && status < 600)

def longestPause : Rat := 8

/-- The seconds before the request with a number, of which the first is sent again under
number zero: between half of a bound and the bound, which doubles. -/
def pauseSeconds (share : Rat) (number : Int) : Rat :=
  let doubled := Decimal.nearest (Decimal.scaleUp 2 1 (number - 1))
  let bound := if doubled < longestPause then doubled else longestPause
  let half := bound / 2
  Decimal.nearest (half + Decimal.nearest (half * share))

/-- Waits before a request is sent again. -/
def pause (c : Client σ) (number : Nat) : HttpM σ Unit :=
  WorldM.use fun k =>
    let (share, server) := c.share k.server
    ((), ⟨server, k.events ++ [.pause (pauseSeconds share number)]⟩)

/-! ### Asking for a value -/

def readBody (body : ByteArray) : Except Fault Data :=
  match Text.Utf8.decode? body with
  | none => .error .undecodable
  | some text => (Json.read text).mapError Fault.ofJson

/-- Whether asking again may help. -/
def mayPass : Fault → Bool
  | .refused status => isPassing status
  | .unreachable | .timedOut | .malformedJson | .undecodable => true
  | _ => false

/-- Asks for a value, `left` times at most, of which the first has a number. -/
def getFrom (c : Client σ) (r : Request) (number : Nat) : (left : Nat) → HttpM σ Data
  | 0 => throw .noAttempt
  | left + 1 => do
    match (← send c r).outcome.bind readBody with
    | .ok d => return d
    | .error f =>
      if mayPass f && left ≠ 0 then
        pause c number
        getFrom c r (number + 1) left
      else throw f

def get (c : Client σ) (r : Request) (attempts : Nat) : HttpM σ Data := do
  let url ← MonadExcept.ofExcept (Address.read r.url)
  getFrom c { r with url } 0 attempts

/-! ### Handing over a value -/

/-- Hands over a value, `left` times at most, of which the first has a number. It is done
again only after a passing failure, and only if it did not happen after all. -/
def postFrom (c : Client σ) (r : Request) (what : String) (happened : HttpM σ Bool)
    (number : Nat) : (left : Nat) → HttpM σ Bool
  | 0 => return false
  | left + 1 => do
    match ← send c r with
    | .answer status body =>
      if isSuccess status then return true
      if isPassing status && left ≠ 0 then
        if ← happened then return true
        pause c number
        postFrom c r what happened (number + 1) left
      else
        WorldM.ofLog (LogM.warn .comments
          (s!"Failed to create {what} ({status}): " ++ Text.Utf8.decodeLossy body))
        return false
    | .unreachable =>
      WorldM.ofLog (LogM.warn .comments ("Failed to create " ++ what) (some .unreachable))
      return false
    | .timedOut =>
      WorldM.ofLog (LogM.warn .comments ("Failed to create " ++ what) (some .timedOut))
      return false

/-- How often a value is handed over at most. -/
def maxPosts : Nat := 3

/-- Hands over a value; the answer is whether it is known to have been taken. -/
def post (c : Client σ) (r : Request) (what : String) (happened : HttpM σ Bool) : HttpM σ Bool :=
  postFrom c r what happened 0 maxPosts

end RuleReview.Http
