import RuleReview.Pattern.Basic

/-! Matching at a place of a line. A pattern is run with a continuation that decides
about the rest: alternatives are tried in their order until the continuation accepts.
A repetition goes on only while its body has moved, so the length of the line bounds it.

The ends of groups are marks in an array. What fails leaves its marks behind: where another
way is tried, marks beyond those that were there before are taken away, and inside a
repetition those that were there before are put back as well.

The matches along a line are searched from left to right. The search goes on where a match ends,
and after an empty match the next one at the same place has to move. -/

namespace RuleReview.Pattern

/-- A line with its small letters beside it. -/
structure Line where
  chars : Array Char
  small : Array Char

def Line.ofList (cs : List Char) : Line := ⟨cs.toArray, (cs.map Text.fold).toArray⟩

def Line.size (t : Line) : Nat := t.chars.size

/-- The character at a place under a treatment of case. -/
def Line.at? (t : Line) : Folding → Nat → Option Char
  | .exact, i => t.chars[i]?
  | .ascii, i => t.chars[i]?.map Text.foldAscii
  | .full, i => t.small[i]?

/-- The characters from one place up to another. -/
def Line.slice (t : Line) (first last : Nat) : String :=
  String.ofList (t.chars.extract first last).toList

/-! ### Marks -/

/-- Where groups start and end, two marks to a group, up to the last mark that has been made. -/
abbrev Marks := Array (Option Nat)

namespace Marks

/-- Makes a mark. Marks before it that have not been made stay open. -/
def put (m : Marks) (i pos : Nat) : Marks :=
  if i < m.size then m.setIfInBounds i (some pos)
  else (m ++ Array.replicate (i - m.size) none).push (some pos)

/-- The span of a group whose marks have both been made, one not before the other. -/
def span? (m : Marks) (g : Nat) : Option (Nat × Nat) :=
  let first := 2 * (g - 1)
  match m[first]?, m[first + 1]? with
  | some (some i), some (some j) => if j < i then none else some (i, j)
  | _, _ => none

/-- The marks after a failure, where another way is tried. -/
def restore (saved : Marks) (inside : Bool) (m : Marks) : Marks :=
  if inside then saved else m.extract 0 saved.size

end Marks

/-- The marks that are left, and the end of the match if there is one. -/
structure Outcome where
  marks : Marks
  finish : Option Nat

/-- Decides about the rest of a match. -/
abbrev Rest := Marks → Nat → Outcome

def failure : Marks → Outcome := fun m => ⟨m, none⟩

def success : Rest := fun m pos => ⟨m, some pos⟩

/-- A first way, or else a second one with the marks of the first. -/
def Outcome.orElse (o : Outcome) (other : Marks → Outcome) : Outcome :=
  if o.finish.isSome then o else other o.marks

/-! ### Characters and anchors -/

/-- Whether a set holds the character at a place. -/
def CharSet.accepts (s : CharSet) (t : Line) (i : Nat) : Bool :=
  match t.at? s.folding i with
  | some c => s.members.any (·.contains c) != s.negated
  | none => false

/-- The number of characters in a set from a place on, `bound` at most. -/
def CharSet.run (s : CharSet) (t : Line) (i : Nat) : (bound : Nat) → Nat
  | 0 => 0
  | bound + 1 => if s.accepts t i then s.run t (i + 1) bound + 1 else 0

/-- Whether a word character stands at a place. -/
def wordAt (t : Line) (ascii : Bool) (i : Nat) : Bool :=
  t.chars[i]?.any (Category.word.contains ascii)

/-- Whether an anchor holds at a place. No boundary is found in an empty line. -/
def Anchor.holds (t : Line) (i : Nat) : Anchor → Bool
  | .start => i == 0
  | .rowStart => i == 0 || t.chars[i - 1]? == some '\n'
  | .finish => i == t.size
  | .lastBreakOrFinish => i == t.size || (i + 1 == t.size && t.chars[i]? == some '\n')
  | .rowFinish => i == t.size || t.chars[i]? == some '\n'
  | .boundary ascii negated =>
    t.size != 0 && ((i != 0 && wordAt t ascii (i - 1)) != wordAt t ascii i) != negated

/-- Whether two stretches of `n` characters are the same. -/
def sameStretch (t : Line) (f : Folding) (i j : Nat) : (n : Nat) → Bool
  | 0 => true
  | n + 1 => (t.at? f i).isSome && t.at? f i == t.at? f j && sameStretch t f (i + 1) (j + 1) n

def allowsMore (count : Nat) : Option Nat → Bool
  | none => true
  | some most => count < most

/-! ### Repetitions -/

/-- Tries the places from `pos` on, the one `n` characters on first. -/
def tryLongest (inside : Bool) (k : Rest) (pos : Nat) : (n : Nat) → Marks → Outcome
  | 0, m => (k m pos).orElse fun after => failure (m.restore inside after)
  | n + 1, m => (k m (pos + (n + 1))).orElse fun after =>
      tryLongest inside k pos n (m.restore inside after)

/-- Tries the places from `pos` to `n` characters on, the nearest first. -/
def tryShortest (inside : Bool) (k : Rest) (pos : Nat) : (n : Nat) → Marks → Outcome
  | 0, m => (k m pos).orElse fun after => failure (m.restore inside after)
  | n + 1, m => (k m pos).orElse fun after =>
      tryShortest inside k (pos + 1) n (m.restore inside after)

/-- Characters of a set, `least` or more and `most` or fewer of them. -/
def repeatSet (t : Line) (s : CharSet) (greed : Greed) (least : Nat) (most : Option Nat)
    (inside : Bool) (k : Rest) (m : Marks) (pos : Nat) : Outcome :=
  let room := t.size - pos
  let n := s.run t pos (match most with
    | some most => min most room
    | none => room)
  if n < least then failure m
  else match greed with
    | .greedy => tryLongest inside k (pos + least) (n - least) m
    | .lazy => tryShortest inside k (pos + least) (n - least) m
    | .possessive => k m (pos + n)

/-- The body of a repetition, with what comes after it. -/
abbrev Body := Marks → Nat → Rest → Outcome

/-- As many repetitions as possible; `last` is the place where the last free one began. -/
def repeatGreedy (body : Body) (least : Nat) (most : Option Nat) (k : Rest) :
    (fuel count : Nat) → (last : Option Nat) → Rest
  | 0, _, _, m, _ => failure m
  | fuel + 1, count, last, m, pos =>
    if count < least then body m pos (repeatGreedy body least most k fuel (count + 1) last)
    else if allowsMore count most && last != some pos then
      let again := repeatGreedy body least most k fuel (count + 1) (some pos)
      (body m pos again).orElse fun _ => k m pos
    else k m pos

/-- As few repetitions as possible. -/
def repeatLazy (body : Body) (least : Nat) (most : Option Nat) (inside : Bool) (k : Rest) :
    (fuel count : Nat) → (last : Option Nat) → Rest
  | 0, _, _, m, _ => failure m
  | fuel + 1, count, last, m, pos =>
    if count < least then body m pos (repeatLazy body least most inside k fuel (count + 1) last)
    else (k m pos).orElse fun after =>
      let m := m.restore inside after
      if allowsMore count most && last != some pos then
        body m pos (repeatLazy body least most inside k fuel (count + 1) (some pos))
      else failure m

/-- As many repetitions as possible, none of which is given back. -/
def repeatForGood (body : Body) (least : Nat) (most : Option Nat) (k : Rest) :
    (fuel count : Nat) → (last : Option Nat) → Rest
  | 0, _, _, m, _ => failure m
  | fuel + 1, count, last, m, pos =>
    if count < least then
      match body m pos success with
      | ⟨m, some pos⟩ => repeatForGood body least most k fuel (count + 1) last m pos
      | ⟨m, none⟩ => failure m
    else if allowsMore count most && last != some pos then
      match body m pos success with
      | ⟨m, some next⟩ => repeatForGood body least most k fuel (count + 1) (some pos) m next
      | ⟨_, none⟩ => k m pos
    else k m pos

/-- Repetitions of any body. Past the least number each of them but the last moves, so
the room on the line bounds their number. -/
def repeatAny (t : Line) (body : Body) (greed : Greed) (least : Nat) (most : Option Nat)
    (inside : Bool) (k : Rest) (m : Marks) (pos : Nat) : Outcome :=
  let fuel := least + (t.size - pos) + 2
  match greed with
  | .greedy => repeatGreedy body least most k fuel 0 none m pos
  | .lazy => repeatLazy body least most inside k fuel 0 none m pos
  | .possessive => repeatForGood body least most k fuel 0 none m pos

def asSet? : Pattern → Option CharSet
  | .set s => some s
  | _ => none

/-! ### Patterns -/

/-- Runs a pattern at a place of a line, inside a repetition or not. -/
def run (t : Line) : Pattern → (inside : Bool) → Body
  | .empty, _, m, pos, k => k m pos
  | .set s, _, m, pos, k => if s.accepts t pos then k m (pos + 1) else failure m
  | .seq a b, inside, m, pos, k => a.run t inside m pos fun m pos => b.run t inside m pos k
  | .alt a b, inside, m, pos, k =>
    (a.run t inside m pos k).orElse fun after =>
      let m := m.restore inside after
      (b.run t inside m pos k).orElse fun after => failure (m.restore inside after)
  | .repeated greed least most a, inside, m, pos, k =>
    match a.asSet? with
    | some s => repeatSet t s greed least most inside k m pos
    | none =>
      let body : Body := a.run t (inside || greed != .possessive)
      repeatAny t body greed least most inside k m pos
  | .group g a, inside, m, pos, k =>
    a.run t inside (m.put (2 * (g - 1)) pos) pos fun m pos => k (m.put (2 * (g - 1) + 1) pos) pos
  | .reference g f, _, m, pos, k =>
    match m.span? g with
    | some (i, j) => if sameStretch t f i pos (j - i) then k m (pos + (j - i)) else failure m
    | none => failure m
  | .anchor a, _, m, pos, k => if a.holds t pos then k m pos else failure m
  | .ahead false a, inside, m, pos, k =>
    match a.run t inside m pos success with
    | ⟨m, some _⟩ => k m pos
    | ⟨m, none⟩ => failure m
  | .ahead true a, inside, m, pos, k =>
    match a.run t inside m pos success with
    | ⟨m, some _⟩ => failure m
    | ⟨after, none⟩ => k (m.restore inside after) pos
  | .behind false width a, inside, m, pos, k =>
    if pos < width then failure m
    else match a.run t inside m (pos - width) success with
      | ⟨m, some _⟩ => k m pos
      | ⟨m, none⟩ => failure m
  | .behind true width a, inside, m, pos, k =>
    if pos < width then k m pos
    else match a.run t inside m (pos - width) success with
      | ⟨m, some _⟩ => failure m
      | ⟨after, none⟩ => k (m.restore inside after) pos
  | .atomic a, inside, m, pos, k =>
    match a.run t inside m pos success with
    | ⟨m, some pos⟩ => k m pos
    | ⟨m, none⟩ => failure m
  | .conditional g yes no, inside, m, pos, k =>
    if (m.span? g).isSome then yes.run t inside m pos k else no.run t inside m pos k

/-- The end of the match at a place, with at least one character if `move` asks for it. -/
def matchAt (a : Pattern) (t : Line) (start : Nat) (move : Bool) : Option Nat :=
  (a.run t false #[] start fun m pos =>
    if move && pos == start then failure m else success m pos).finish

/-! ### Scanning -/

/-- The spans of the matches from a place on, which have `least` characters or more. Every step
uses up a place or, after an empty match, the right to match nothing there, so twice the room is
fuel enough. -/
def scan (a : Pattern) (least : Nat) (t : Line) :
    (fuel : Nat) → (pos : Nat) → (move : Bool) → List (Nat × Nat)
  | 0, _, _ => []
  | fuel + 1, pos, move =>
    if t.size < pos + least then []
    else match a.matchAt t pos move with
      | some e => (pos, e) :: scan a least t fuel e (e == pos)
      | none => if pos < t.size then scan a least t fuel (pos + 1) false else []

/-- The spans of the matches of a pattern in a line, empty ones included. -/
def spans (a : Pattern) (t : Line) : List (Nat × Nat) := a.scan a.least t (2 * t.size + 2) 0 false

def count (a : Pattern) (t : Line) : Nat := (a.spans t).length

end RuleReview.Pattern
