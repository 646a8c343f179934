import RuleReview.Pattern.Reader

/-! What the parts of a pattern mean under flags. Without regard to case a set holds small
letters, with which the small letter of a character is compared. Characters past the first
65536 stand in a set as they are, and a range of them holds the letters that have a capital
in it. -/

namespace RuleReview.Pattern

/-! ### Characters and sets -/

/-- The small letter of a code point under the flags. -/
def smallOf (f : Flags) (c : Nat) : Nat :=
  if !c.isValidChar then c
  else if f.ascii then (Text.foldAscii (Char.ofNat c)).toNat
  else (Text.fold (Char.ofNat c)).toNat

/-- Code points that stand for a character where case does not count. -/
def formsOf (f : Flags) (c : Nat) : List Nat :=
  let small := smallOf f c
  if f.ascii || !small.isValidChar then [small]
  else small :: (Text.sharedForms (Char.ofNat small)).map Char.toNat

def membersOfChar (f : Flags) (c : Nat) : List Member :=
  if f.ignoreCase then (formsOf f c).map .one else [.one c]

/-- The last code point that a set holds in small letters. -/
def lastFolded : Nat := 0xffff

def membersOf (f : Flags) : Element → List Member
  | .char c => if c ≤ lastFolded then membersOfChar f c else [.one c]
  | .range first last =>
    if !f.ignoreCase then [.range first last]
    else
      let low := .rangeInAnyCase f.ascii first (min last lastFolded)
      if last ≤ lastFolded then [low]
      else [low, .rangeWithCapitals first last]
  | .kind k negated => [.category k f.ascii negated]

def setOf (f : Flags) (negated : Bool) (members : List Member) : Pattern :=
  .set ⟨f.folding, negated, members⟩

/-! ### Anchors -/

def Mark.under (f : Flags) : Mark → Anchor
  | .head => if f.rows then .rowStart else .start
  | .tail => if f.rows then .rowFinish else .lastBreakOrFinish
  | .start => .start
  | .finish => .finish
  | .boundary negated => .boundary f.ascii negated

/-! ### Parts -/

namespace Term

mutual

/-- The pattern of a part under flags, given the widths of groups. What stands before a place
is only asked for where its width is fixed. -/
def under (groups : Nat → Width) (f : Flags) : Term → Except Error Pattern
  | .char c => .ok (setOf f false (membersOfChar f c))
  | .otherChar c => .ok (setOf f true (membersOfChar f c))
  | .any => .ok (.set ⟨.exact, true, if f.dotAll then [] else [.one 10]⟩)
  | .set negated es => .ok (setOf f negated (es.flatMap (membersOf f)))
  | .anchor a => .ok (.anchor (a.under f))
  | .reference g => .ok (.reference g f.folding)
  | .choice branches => do return Pattern.choice (← underEach groups f branches)
  | .repeated greed least most body => do
    return .repeated greed least most (sequence (← underAll groups f body))
  | .group index on off body => do
    let a := sequence (← underAll groups (f.change on off) body)
    match index with
    | some g => return .group g a
    | none => return a
  | .atomic body => do return .atomic (sequence (← underAll groups f body))
  | .ahead negated body => do return .ahead negated (sequence (← underAll groups f body))
  | .behind negated body => do
    let (least, most) := widthOfAll groups (0, 0) body
    if least ≠ most then throw .malformed
    return .behind negated least (sequence (← underAll groups f body))
  | .conditional g yes no _ => do
    return .conditional g (sequence (← underAll groups f yes)) (sequence (← underAll groups f no))

def underAll (groups : Nat → Width) (f : Flags) : List Term → Except Error (List Pattern)
  | [] => .ok []
  | a :: as => do return (← under groups f a) :: (← underAll groups f as)

def underEach (groups : Nat → Width) (f : Flags) : List (List Term) → Except Error (List Pattern)
  | [] => .ok []
  | as :: rest => do return sequence (← underAll groups f as) :: (← underEach groups f rest)

end

mutual

/-- The set that a part starts with, if it starts with one, and the flags of that place. -/
def headSet? (f : Flags) : Term → Option (Flags × Bool × List Element)
  | .set negated es => some (f, negated, es)
  | .group _ on off body => headSetOfAll? (f.change on off) body
  | _ => none

/-- The set that a sequence starts with. -/
def headSetOfAll? (f : Flags) : List Term → Option (Flags × Bool × List Element)
  | [] => none
  | a :: _ => headSet? f a

end

end Term

/-- Whether a code point differs from its small or capital letter under the flags. -/
def isCasedUnder (f : Flags) (c : Nat) : Bool :=
  if !c.isValidChar then false
  else if f.ascii then (Char.ofNat c).isAlpha
  else Text.hasCase (Char.ofNat c)

/-- Whether case makes a difference to an element of a set. -/
def Element.isCased (f : Flags) : Element → Bool
  | .char c => isCasedUnder f c
  | .range first last =>
    lastFolded < last || (List.range' first (last + 1 - first)).any (isCasedUnder f)
  | .kind .. => false

/-- What the place of a match has to satisfy. A pattern that starts with a set to which case
makes no difference is tried only where the set under the flags of the whole pattern holds the
next character, also where the set stands in a group with scripts of its own. -/
def placesOf (f : Flags) (terms : List Term) : List Pattern :=
  match Term.headSetOfAll? f terms with
  | some (own, negated, es) =>
    if own.ascii == f.ascii || (own.ignoreCase && es.any (Element.isCased own)) then []
    else
      let members := es.flatMap (membersOf { f with ignoreCase := false })
      [.ahead false (.set ⟨.exact, negated, members⟩)]
  | none => []

def ofTerms (groups : Nat → Term.Width) (f : Flags) (terms : List Term) : Except Error Pattern := do
  return sequence (placesOf f terms ++ (← Term.underAll groups f terms))

end RuleReview.Pattern
