import RuleReview.Issue
import RuleReview.Language
import RuleReview.Pattern.Matcher

/-! Rules, the categories they are grouped in, and collections of categories. A category
may hold further categories. -/

namespace RuleReview

namespace Rule

def everyLanguage : String := "all"

/-- The languages that a rule is about: one tag, or several. -/
inductive Scope
  | single (tag : String)
  | several (tags : List String)
  deriving DecidableEq, Repr

/-- Whether a scope covers a language given by any of its names. -/
def Scope.covers (language : String) : Scope → Bool
  | .single tag =>
    Language.normalize tag == everyLanguage || Language.normalize tag == Language.normalize language
  | .several tags =>
    tags.contains everyLanguage
      || tags.any fun tag => Language.normalize tag == Language.normalize language

end Rule

/-- A pattern and what is reported where it matches. -/
structure Rule where
  source : String
  pattern : Pattern
  scope : Rule.Scope
  subCategory : String
  description : String
  sample : Option String := none
  fix : Option String := none
  deriving DecidableEq, Repr

namespace Rule

/-- Rules of one subject, with categories below it. The severity and the weakness list
are those of its issues. -/
inductive Category
  | mk (key title : String) (severity : Severity) (rules : List Rule)
    (children : List Category) (cwe : List String)
  deriving Repr

namespace Category

def key : Category → String
  | mk k _ _ _ _ _ => k

def title : Category → String
  | mk _ t _ _ _ _ => t

def severity : Category → Severity
  | mk _ _ s _ _ _ => s

def rules : Category → List Rule
  | mk _ _ _ r _ _ => r

/-- The categories right below. -/
def children : Category → List Category
  | mk _ _ _ _ c _ => c

/-- The weaknesses that the issues of a category belong to. -/
def cwe : Category → List String
  | mk _ _ _ _ _ w => w

mutual

/-- A category and all categories below it, each before those below it. -/
def walk : Category → List Category
  | mk k t s r c w => mk k t s r c w :: walkAll c

def walkAll : List Category → List Category
  | [] => []
  | c :: cs => walk c ++ walkAll cs

end

mutual

/-- The number of rules of a category and of all below it. -/
def ruleCount : Category → Nat
  | mk _ _ _ r c _ => r.length + ruleCountAll c

/-- The number of rules of the categories of a list and of all below them. -/
def ruleCountAll : List Category → Nat
  | [] => 0
  | c :: cs => ruleCount c + ruleCountAll cs

end

end Category

/-- The categories of one source. A collection about a language applies to that language;
one about frameworks applies category by category. -/
structure Collection where
  name : String
  kind : Issue.Kind := .quality
  categories : List Category := []
  language : Option String := none
  aboutFrameworks : Bool := false

namespace Collection

def isEmpty (c : Collection) : Bool := c.categories.isEmpty

def walk (c : Collection) : List Category := Category.walkAll c.categories

/-- The number of rules at any depth. -/
def ruleCount (c : Collection) : Nat := Category.ruleCountAll c.categories

/-- The collection with the top categories of some keys only. -/
def restrict (c : Collection) (keys : List String) : Collection :=
  { c with categories := c.categories.filter fun cat => keys.contains cat.key }

end Collection

end Rule

end RuleReview
