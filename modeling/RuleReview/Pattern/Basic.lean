import RuleReview.Text.Blank
import RuleReview.Text.Word
import RuleReview.Text.Case

/-! Patterns over the characters of a line: sets of characters, anchors, and their
sequences, alternatives, repetitions, groups, references and assertions. -/

namespace RuleReview.Pattern

/-- How letter case is treated: it counts, or it does not, among the first 128 characters
or among all. -/
inductive Folding
  | exact
  | ascii
  | full
  deriving DecidableEq, Repr

/-- Kinds of characters with a name of their own. -/
inductive Category
  | digit
  | blank
  | word
  deriving DecidableEq, Repr

/-- Whether a character is of a kind, all scripts considered or the first 128 characters. -/
def Category.contains (k : Category) (ascii : Bool) (c : Char) : Bool :=
  match k, ascii with
  | .digit, false => Text.isDecimal c
  | .digit, true => c.isDigit
  | .blank, false => Text.isBlank c
  | .blank, true => Text.isAsciiBlank c
  | .word, false => Text.isWord c
  | .word, true => Text.isAsciiWord c

/-- A member of a set of characters. Characters are given by code point; a range in any
case holds the characters that equal one of its own up to case, and a range with capitals
those whose capital is one of its own. -/
inductive Member
  | one (c : Nat)
  | range (first last : Nat)
  | rangeInAnyCase (ascii : Bool) (first last : Nat)
  | rangeWithCapitals (first last : Nat)
  | category (k : Category) (ascii negated : Bool)
  deriving DecidableEq, Repr

/-- Whether a member holds a character. -/
def Member.contains (c : Char) : Member → Bool
  | .one d => c.toNat == d
  | .range first last => first ≤ c.toNat && c.toNat ≤ last
  | .rangeInAnyCase ascii first last =>
    let within (d : Char) : Bool := first ≤ d.toNat && d.toNat ≤ last
    within c || (if ascii then within c.toUpper else (Text.caseClass c).any within)
  | .rangeWithCapitals first last =>
    let within (d : Char) : Bool := first ≤ d.toNat && d.toNat ≤ last
    within c || within (Text.unfold c)
  | .category k ascii negated => k.contains ascii c != negated

/-- A set of characters, or its complement, compared in small letters unless exact. -/
structure CharSet where
  folding : Folding
  negated : Bool
  members : List Member
  deriving DecidableEq, Repr

/-- Places in a line that a pattern can ask for. -/
inductive Anchor
  | start
  | rowStart
  | finish
  | lastBreakOrFinish
  | rowFinish
  | boundary (ascii negated : Bool)
  deriving DecidableEq, Repr

/-- Whether a repetition takes as much as it can, as little as it can, or as much as it
can for good. -/
inductive Greed
  | greedy
  | lazy
  | possessive
  deriving DecidableEq, Repr

end Pattern

inductive Pattern
  | empty
  | set (s : Pattern.CharSet)
  | seq (a b : Pattern)
  | alt (a b : Pattern)
  | repeated (greed : Pattern.Greed) (least : Nat) (most : Option Nat) (body : Pattern)
  | group (index : Nat) (body : Pattern)
  | reference (index : Nat) (folding : Pattern.Folding)
  | anchor (a : Pattern.Anchor)
  | ahead (negated : Bool) (body : Pattern)
  | behind (negated : Bool) (width : Nat) (body : Pattern)
  | atomic (body : Pattern)
  | conditional (index : Nat) (yes no : Pattern)
  deriving DecidableEq, Repr

namespace Pattern

def never : Pattern := .set ⟨.exact, false, []⟩

def sequence : List Pattern → Pattern
  | [] => .empty
  | [a] => a
  | a :: as => .seq a (sequence as)

/-- The first pattern that leads to a match. -/
def choice : List Pattern → Pattern
  | [] => never
  | [a] => a
  | a :: as => .alt a (choice as)

/-- Every match has at least as many characters. -/
def least : Pattern → Nat
  | .empty | .anchor _ | .ahead .. | .behind .. | .reference .. => 0
  | .set _ => 1
  | .seq a b => a.least + b.least
  | .alt a b => min a.least b.least
  | .repeated _ count _ body => count * body.least
  | .group _ body | .atomic body => body.least
  | .conditional _ yes no => min yes.least no.least

end Pattern

end RuleReview
