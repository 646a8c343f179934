import RuleReview.Http
import RuleReview.Review.Marker
import RuleReview.Review.Sink

/-! The comments on a pull request of a server. Which comments are there already is told by
their markers. -/

namespace RuleReview.Review

/-- A pull request, and the commit that comments are about. -/
structure PullRequest where
  token : String
  repository : String
  number : Int
  commit : String

namespace PullRequest

def server : String := "https://api.github.com"

/-- What every request says about itself. -/
def headers (token : String) : List (String × String) := [
  ("Authorization", "Bearer " ++ token), ("Accept", "application/vnd.github+json"),
  ("Content-Type", "application/json"), ("User-Agent", "codesentry"),
  ("X-GitHub-Api-Version", "2022-11-28")]

def authorization? (p : PullRequest) : Option String := (headers p.token).lookup "Authorization"

/-- The address of comments on places of the diff. -/
def placeUrl (p : PullRequest) : String :=
  server ++ s!"/repos/{p.repository}/pulls/{p.number}/comments"

def wholeUrl (p : PullRequest) : String :=
  server ++ s!"/repos/{p.repository}/issues/{p.number}/comments"

/-- The value that makes a comment on a place. -/
def payload (c : Comment) (commit : String) : Data := .object [
  ("body", .text c.body), ("commit_id", .text commit), ("path", .text c.path),
  ("position", .integer c.position), ("side", .text "RIGHT")]

/-! ### Keys -/

def itemKey? (d : Data) : Option String := (d.get? "body").bind Data.text? |>.bind Marker.key?

def addKeys (keys more : List String) : List String :=
  more.foldl (fun keys key => if key ∈ keys then keys else keys ++ [key]) keys

/-- The number of comments on a full page. -/
def pageSize : Nat := 100

def maxPages : Nat := 10

/-- How often a page is asked for at most. -/
def maxGets : Nat := 4

def pageRequest (p : PullRequest) (url : String) (page : Nat) : Http.Request where
  verb := .get
  url := url ++ s!"?per_page={pageSize}&page={page}"
  authorization := p.authorization?
  timeout := .integer 15

/-- Whether a failed request for a page only ends the listing. -/
def endsListing : Fault → Bool
  | .refused _ | .unreachable | .timedOut | .malformedJson | .undecodable => true
  | _ => false

/-- The keys on `left` pages at most, of which the first has a number, added to others. -/
def keysFrom (c : Http.Client σ) (p : PullRequest) (url : String) (keys : List String)
    (page : Nat) : (left : Nat) → Http.HttpM σ (List String)
  | 0 => return keys
  | left + 1 => do
    match ← (Http.get c (p.pageRequest url page) maxGets).attempt with
    | .error f =>
      unless endsListing f do throw f
      WorldM.ofLog (LogM.warn .comments ("Could not list existing comments at " ++ url))
      return keys
    | .ok d =>
      let items := d.items?.getD []
      let keys := addKeys keys (items.filterMap itemKey?)
      if items.length < pageSize then return keys
      keysFrom c p url keys (page + 1) left

/-- The keys of the comments at an address. -/
def keysAt (p : PullRequest) (c : Http.Client σ) (url : String) : Http.HttpM σ (List String) :=
  keysFrom c p url [] 1 maxPages

/-! ### Comments -/

def postRequest (p : PullRequest) (url : String) (d : Data) : Http.Request where
  verb := .post
  url := url
  authorization := p.authorization?
  timeout := .integer 20
  payload := some d

/-- Hands over a comment with a key, unless it proves to be there. -/
def postTo (p : PullRequest) (c : Http.Client σ) (url what key : String) (d : Data) :
    Http.HttpM σ Bool :=
  Http.post c (p.postRequest url d) what (do return (← p.keysAt c url).contains key)

/-- The comments on a pull request as a place for comments. -/
def sink (p : PullRequest) (c : Http.Client σ) : Sink (Http.Connection σ) where
  existing := do
    let onPlaces ← p.keysAt c p.placeUrl
    let onWhole ← p.keysAt c p.wholeUrl
    return addKeys onPlaces onWhole
  post := fun comment =>
    p.postTo c p.placeUrl s!"review comment for {comment.path} (position {comment.position})"
      comment.key (payload comment p.commit)
  postSummary := fun body key =>
    p.postTo c p.wholeUrl "summary comment" key (.object [("body", .text body)])

end PullRequest

end RuleReview.Review
