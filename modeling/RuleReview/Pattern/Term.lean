import RuleReview.Pattern.Flags

/-! Patterns as they are written, before flags give them a meaning: characters by code point,
sets, anchors, and sequences, alternatives, repetitions and groups of them. -/

namespace RuleReview.Pattern

/-- A member of a set as it is written. -/
inductive Element
  | char (c : Nat)
  | range (first last : Nat)
  | kind (k : Category) (negated : Bool)
  deriving DecidableEq, Repr

/-- An anchor as it is written. The flag for rows decides about the first and the last one. -/
inductive Mark
  | head
  | tail
  | start
  | finish
  | boundary (negated : Bool)
  deriving DecidableEq, Repr

/-- A part of a pattern. A group may have a number, and flags of its own. -/
inductive Term
  | char (c : Nat)
  | otherChar (c : Nat)
  | any
  | set (negated : Bool) (elements : List Element)
  | anchor (a : Mark)
  | reference (index : Nat)
  | choice (branches : List (List Term))
  | repeated (greed : Greed) (least : Nat) (most : Option Nat) (body : List Term)
  | group (index : Option Nat) (on off : FlagChange) (body : List Term)
  | atomic (body : List Term)
  | ahead (negated : Bool) (body : List Term)
  | behind (negated : Bool) (body : List Term)
  | conditional (index : Nat) (yes no : List Term) (hasNo : Bool)
  deriving Repr

namespace Term

/-! ### Sequences -/

/-- Parts in a plain group are parts of the sequence that the group stands in. -/
def unpacked : Term → List Term
  | .group none on off body => if on = {} && off = {} then body else [.group none on off body]
  | a => [a]

/-- Whether two parts are the same character, set, anchor or reference. -/
def isSame : Term → Term → Bool
  | .char c, .char d => c == d
  | .otherChar c, .otherChar d => c == d
  | .any, .any => true
  | .set n es, .set m fs => n == m && es == fs
  | .anchor a, .anchor b => a == b
  | .reference g, .reference h => g == h
  | _, _ => false

/-- The part that all alternatives start with. -/
def sharedHead? (branches : List (List Term)) : Option Term :=
  match branches.head? with
  | some (a :: _) => if branches.all fun b => b.head?.any (isSame a) then some a else none
  | _ => none

/-- The members of an alternative that is a single character or a set. -/
def elements? : List Term → Option (List Element)
  | [.char c] => some [.char c]
  | [.set false es] => some es
  | _ => none

/-- Alternatives without what all of them start with: a set where each of them is a character
or a set. The shortest alternative bounds the parts in common. -/
def ofBranches : (fuel : Nat) → (branches : List (List Term)) → List Term
  | 0, branches => [.choice branches]
  | fuel + 1, branches =>
    match sharedHead? branches with
    | some a => a :: ofBranches fuel (branches.map (·.drop 1))
    | none =>
      match branches.mapM elements? with
      | some sets => [.set false sets.flatten.eraseDups]
      | none => [.choice branches]

/-! ### Widths -/

/-- The least and the greatest number of characters. -/
abbrev Width := Nat × Nat

/-- The number from which on no repetitions may be asked for. -/
def repeatLimit : Nat := 4294967295

def Width.capped (a : Width) : Width := (min a.1 (repeatLimit - 1), min a.2 repeatLimit)

mutual

/-- The width of a part, given the widths of the groups it refers to. -/
def width (groups : Nat → Width) : Term → Width
  | .char _ | .otherChar _ | .any | .set .. => (1, 1)
  | .anchor _ | .ahead .. | .behind .. => (0, 0)
  | .reference g => groups g
  | .choice branches => widthOfAny groups (repeatLimit - 1, 0) branches
  | .repeated _ least most body =>
    let (low, high) := widthOfAll groups (0, 0) body
    (low * least, high * most.getD repeatLimit)
  | .group _ _ _ body | .atomic body => widthOfAll groups (0, 0) body
  | .conditional _ yes no hasNo =>
    let (low, high) := widthOfAll groups (0, 0) yes
    let (low', high') := widthOfAll groups (0, 0) no
    (if hasNo then min low low' else 0, max high high')

def widthOfAll (groups : Nat → Width) (before : Width) : List Term → Width
  | [] => before.capped
  | a :: as =>
    let (low, high) := width groups a
    widthOfAll groups (before.1 + low, before.2 + high) as

def widthOfAny (groups : Nat → Width) (before : Width) : List (List Term) → Width
  | [] => before
  | as :: rest =>
    let (low, high) := widthOfAll groups (0, 0) as
    widthOfAny groups (min before.1 low, max before.2 high) rest

end

end Term

end RuleReview.Pattern
