import RuleReview.Decimal.Integer
import RuleReview.Text.Case
import RuleReview.Text.Lines
import RuleReview.Text.Numeral
import RuleReview.Text.Quoted
import RuleReview.Text.Search

/-! The path that an address leads to. An address that does not name both a scheme and a host
counts from the root of the service. Components of one or two points are taken out first;
then numbers after a percent sign become the bytes that they stand for, twice over: once on
the way out and once on the way in. -/

namespace RuleReview.Service.Address

/-- Why an address leads nowhere. -/
inductive Error
  | tooLong
  | unprintable (c : Char) (position : Nat)
  | doubleSlash
  | colonFirst
  | badPort (text : String)
  | foreignScheme (name : String)
  deriving DecidableEq, Repr

/-- The reason in words, where it has words of its own. -/
def Error.message : Error → String
  | tooLong => "URL too long"
  | unprintable c n =>
    s!"Invalid non-printable ASCII character in URL, {Text.quoted (String.singleton c)} at "
      ++ s!"position {n}."
  | doubleSlash => "Relative URLs cannot have a path starting with '//'"
  | colonFirst => "Relative URLs cannot have a path starting with ':'"
  | badPort text => "Invalid port: " ++ Text.quoted text
  | foreignScheme _ => ""

structure Parts where
  scheme : String
  host : String
  hasAuthority : Bool
  path : List Char
  deriving DecidableEq, Repr

def maxLength : Nat := 65536

/-- Characters of a scheme after its first letter. -/
def inScheme (c : Char) : Bool := c.isAlphanum || c == '+' || c == '.' || c == '-'

/-- The scheme at the front of an address, which may be empty, and the rest. -/
def takeScheme (cs : List Char) : String × List Char :=
  let name := if cs.head?.any Char.isAlpha then cs.takeWhile inScheme else []
  match cs.drop name.length with
  | ':' :: rest => (Text.toLower (String.ofList name), rest)
  | _ => ("", cs)

/-- Characters that end the part of an address that names a host. -/
def endsAuthority (c : Char) : Bool := c == '/' || c == '?' || c == '#'

/-- The part of an address that names a host, after two slashes, and the rest. -/
def takeAuthority : List Char → List Char × List Char
  | '/' :: '/' :: cs => (cs.takeWhile (!endsAuthority ·), cs.dropWhile (!endsAuthority ·))
  | cs => ([], cs)

/-- What follows the last of some characters, if it occurs. -/
def afterLast (c : Char) (cs : List Char) : List Char := (cs.reverse.takeWhile (· != c)).reverse

/-- A host, in brackets or up to a colon, and the rest. -/
def takeHost (cs : List Char) : List Char × List Char :=
  if cs.head? == some '[' && cs.contains ']' then
    let rest := afterLast ']' cs
    (cs.take (cs.length - rest.length), rest)
  else (cs.takeWhile (· != ':'), cs.dropWhile (· != ':'))

/-- A number for a port is wanted if there is a text for one. -/
def checkPort (cs : List Char) : Except Error Bool :=
  match cs with
  | [] => .ok false
  | cs => match Decimal.readInteger (String.ofList cs) with
    | .ok _ => .ok true
    | .error _ => .error (.badPort (String.ofList cs))

/-- Components without single points, and without every two points together with the
component before them; the empty one in front of the first slash stays. -/
def climb (before : List (List Char)) : List (List Char) → List (List Char)
  | [] => before.reverse
  | ['.'] :: rest => climb before rest
  | ['.', '.'] :: rest => climb (if before == [[]] then before else before.drop 1) rest
  | part :: rest => climb (part :: before) rest

def withoutPoints (path : List Char) : List Char :=
  ['/'].intercalate (climb [] (Text.splitOn '/' path))

def Parts.read (cs : List Char) : Except Error Parts := do
  if maxLength < cs.length then throw .tooLong
  if let some n := cs.findIdx? (fun c => c.val < 0x20 || c.val == 0x7f) then
    throw (.unprintable (cs.getD n ' ') n)
  let (scheme, rest) := takeScheme cs
  let (authority, rest) := takeAuthority rest
  let path := rest.takeWhile fun c => c != '?' && c != '#'
  let (host, port) := takeHost (afterLast '@' authority)
  let hasPort ← checkPort (if port.head? == some ':' then port.drop 1 else port)
  let hasUser := authority.length ≠ (afterLast '@' authority).length
  let hasAuthority := hasPort || !host.isEmpty || hasUser
  if scheme == "" && !hasAuthority then
    if "//".toList.isPrefixOf path then throw .doubleSlash
    if path.head? == some ':' then throw .colonFirst
    return ⟨scheme, String.ofList host, hasAuthority, path⟩
  return ⟨scheme, String.ofList host, hasAuthority, withoutPoints path⟩

/-- Every percent sign with two hexadecimal digits as the byte that it stands for. A byte
beyond the first 128 is part of no path of the service and is not read any further. -/
def unescape : List Char → List Char
  | '%' :: a :: b :: cs =>
    if Text.isHex a && Text.isHex b then
      let n := Text.valueIn 16 [a, b]
      (if n < 0x80 then Char.ofNat n else '\ufffd') :: unescape cs
    else '%' :: unescape (a :: b :: cs)
  | c :: cs => c :: unescape cs
  | [] => []

def schemes : List String := ["http", "https"]

def settle (path : List Char) : String :=
  String.ofList (unescape (unescape (if path.isEmpty then ['/'] else path)))

def path (address : String) : Except Error String := do
  let p ← Parts.read address.toList
  if p.scheme != "" && p.host != "" then
    if schemes.contains p.scheme then return settle p.path else throw (.foreignScheme p.scheme)
  else return settle (withoutPoints ('/' :: p.path.dropWhile (· == '/')))

end RuleReview.Service.Address
