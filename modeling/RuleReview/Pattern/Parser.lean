import RuleReview.Pattern.OfTerms
import RuleReview.Pattern.Reader
import RuleReview.Pattern.Set
import RuleReview.Text.Word

/-! Reading patterns. Flags given at the very start hold for the whole pattern and flags in
a group for the group; an assertion about what stands before has to have a fixed width. -/

namespace RuleReview.Pattern

/-! ### Flags -/

/-- Flags being turned on from one letter on, and the character that ends them. -/
def readFlagsOn : (fuel : Nat) → FlagChange → Char → Reader (FlagChange × Char)
  | 0, _, _ => refuse
  | fuel + 1, d, c => do
    let some d := d.add? c | refuse
    if d.ascii && d.allScripts then refuse
    let some (.plain c) ← take | refuse
    if c = ')' || c = '-' || c = ':' then return (d, c) else readFlagsOn fuel d c

/-- Flags being turned off from one letter on, up to the colon. -/
def readFlagsOff : (fuel : Nat) → FlagChange → Char → Reader FlagChange
  | 0, _, _ => refuse
  | fuel + 1, d, c => do
    let some d := d.add? c | refuse
    if d.choosesScripts then refuse
    let some (.plain c) ← take | refuse
    if c = ':' then return d else readFlagsOff fuel d c

/-- Flags from their first character on: those turned on and off in a group, or, where no
group follows, those turned on for the whole pattern. -/
def readFlags (c : Char) : Reader (Sum FlagChange (FlagChange × FlagChange)) := do
  let fuel := (← get).rest.length + 1
  let (on, stop) ← if c = '-' then pure (({} : FlagChange), '-') else readFlagsOn fuel {} c
  if stop = ')' then return .inl on
  if on.template then refuse
  let off ← if stop = '-' then do
      let some (.plain c) ← take | refuse
      readFlagsOff fuel {} c
    else pure {}
  if off.template || on.overlaps off then refuse
  return .inr (on, off)

/-! ### Groups and sequences -/

/-- The group that a condition refers to, by name or by number. -/
def readConditionGroup : Reader Nat := do
  let name ← takeName ')'
  let g ← if Text.isName name.toList then
      match (← get).names.lookup name with
      | some g => pure g
      | none => refuse
    else match Decimal.readInteger name with
      | .ok n =>
        if n ≤ 0 || 1073741823 < n then refuse
        modify fun s => { s with greatestCondition := max s.greatestCondition n.toNat }
        pure n.toNat
      | .error _ => refuse
  checkBehind g
  return g

def skipComment : (fuel : Nat) → Reader Unit
  | 0 => refuse
  | fuel + 1 => do
    match ← take with
    | some (.plain ')') => return
    | some _ => skipComment fuel
    | none => refuse

def skipRow : (fuel : Nat) → Reader Unit
  | 0 => return
  | fuel + 1 => do
    match ← take with
    | some (.plain '\n') | none => return
    | some _ => skipRow fuel

def openGroup (name : Option String) : Reader Nat := do
  let g ← nextGroup
  modify fun s => { s with widths := s.widths.push none }
  if let some n := name then
    if ((← get).names.lookup n).isSome then refuse
    modify fun s => { s with names := (n, g) :: s.names }
  return g

def closeGroup (g : Nat) (body : List Term) : Reader Unit :=
  modify fun s =>
    let width := Term.widthOfAll (groupWidth s.widths) (0, 0) body
    { s with widths := s.widths.setIfInBounds (g - 1) (some width) }

mutual

/-- Alternatives, verbose or not. At the top, flags of the whole pattern may come first, and
decide whether the alternatives after them are verbose. -/
def readBranches : (fuel : Nat) → (top first verbose : Bool) → Reader (List (List Term))
  | 0, _, _, _ => refuse
  | fuel + 1, top, first, verbose => do
    let a ← readSequence fuel (top && first) verbose []
    if ← accept '|' then
      let whole := (← get).flags.verbose
      return a :: (← readBranches fuel top false (if top then whole else verbose))
    else return [a]

def readChoice : (fuel : Nat) → (top verbose : Bool) → Reader (List Term)
  | 0, _, _ => refuse
  | fuel + 1, top, verbose => do
    match ← readBranches fuel top true verbose with
    | [a] => return a
    | branches =>
      return Term.ofBranches ((branches.head?.map List.length).getD 0 + 1) branches

/-- A sequence, verbose or not; `before` holds its parts so far in reverse. -/
def readSequence : (fuel : Nat) → (first verbose : Bool) → (before : List Term) →
    Reader (List Term)
  | 0, _, _, _ => refuse
  | fuel + 1, first, verbose, before => do
    let finish : Reader (List Term) := return before.reverse.flatMap Term.unpacked
    let next (a : Term) : Reader (List Term) := readSequence fuel first verbose (a :: before)
    let again (least : Nat) (most : Option Nat) : Reader (List Term) := do
      readSequence fuel first verbose (← repeatLast least most before)
    match ← peek with
    | none | some (.plain '|') | some (.plain ')') => finish
    | some t =>
      advance
      match t with
      | .dangling => refuse
      | .escaped c => next (← readEscape c)
      | .plain c =>
        let isBlank := c = ' ' || ('\t' ≤ c && c ≤ '\r')
        if verbose && isBlank then readSequence fuel first verbose before
        else if verbose && c = '#' then
          skipRow ((← get).rest.length + 1)
          readSequence fuel first verbose before
        else match c with
          | '[' => next (← readSet)
          | '.' => next .any
          | '^' => next (.anchor .head)
          | '$' => next (.anchor .tail)
          | '?' => again 0 (some 1)
          | '*' => again 0 none
          | '+' => again 1 none
          | '\x7b' =>
            match ← readBounds with
            | some (least, most) => again least most
            | none => next (.char c.toNat)
          | '(' =>
            if ← accept '?' then readExtension fuel first verbose before
            else
              let g ← openGroup none
              let body ← readBody fuel verbose
              closeGroup g body
              next (.group (some g) {} {} body)
          | _ => next (.char c.toNat)

/-- The alternatives of a group up to its bracket. -/
def readBody : (fuel : Nat) → (verbose : Bool) → Reader (List Term)
  | 0, _ => refuse
  | fuel + 1, verbose => do
    let a ← readChoice fuel false verbose
    expect ')'
    return a

/-- A group after its question mark, and the rest of the sequence. -/
def readExtension : (fuel : Nat) → (first verbose : Bool) → (before : List Term) →
    Reader (List Term)
  | 0, _, _, _ => refuse
  | fuel + 1, first, verbose, before => do
    let next (a : Term) : Reader (List Term) := readSequence fuel first verbose (a :: before)
    let some (.plain c) ← take | refuse
    match c with
    | 'P' =>
      if ← accept '<' then
        let name ← takeName '>'
        unless Text.isName name.toList do refuse
        let g ← openGroup (some name)
        let body ← readBody fuel verbose
        closeGroup g body
        next (.group (some g) {} {} body)
      else if ← accept '=' then
        let name ← takeName ')'
        unless Text.isName name.toList do refuse
        match (← get).names.lookup name with
        | some g => next (← readReference g)
        | none => refuse
      else refuse
    | ':' => next (.group none {} {} (← readBody fuel verbose))
    | '>' => next (.atomic (← readBody fuel verbose))
    | '#' =>
      skipComment ((← get).rest.length + 1)
      readSequence fuel first verbose before
    | '=' => next (.ahead false (← readBody fuel verbose))
    | '!' => next (.ahead true (← readBody fuel verbose))
    | '<' =>
      let some (.plain d) ← take | refuse
      unless d = '=' || d = '!' do refuse
      let outer := (← get).behindFrom
      if outer.isNone then
        let g ← nextGroup
        modify fun s => { s with behindFrom := some g }
      let body ← readChoice fuel false verbose
      if outer.isNone then modify fun s => { s with behindFrom := none }
      expect ')'
      next (.behind (d = '!') body)
    | '(' =>
      let g ← readConditionGroup
      let yes ← readSequence fuel false verbose []
      if ← accept '|' then
        let no ← readSequence fuel false verbose []
        expect ')'
        next (.conditional g yes no true)
      else
        expect ')'
        next (.conditional g yes [] false)
    | _ =>
      match ← readFlags c with
      | .inl on =>
        unless first && before.isEmpty do refuse
        modify fun s => { s with
          flags := s.flags.change { on with allScripts := false } {}
          allScripts := s.allScripts || on.allScripts
          template := s.template || on.template }
        readSequence fuel first (← get).flags.verbose before
      | .inr (on, off) =>
        let body ← readBody fuel ((verbose || on.verbose) && !off.verbose)
        next (.group none on off body)

end

/-- The pattern of a text. Faults that only the whole pattern shows come after those of its
parts. -/
def readAll (fuel : Nat) : Reader Pattern := do
  let terms ← readChoice fuel true (← get).flags.verbose
  let s ← get
  if s.flags.ascii && s.allScripts then throw .flagsClash
  unless s.rest.isEmpty do refuse
  if s.widths.size < s.greatestCondition then refuse
  if s.template && s.repeats then refuse
  ofTerms (groupWidth s.widths) s.flags terms

def parse (f : Flags) (source : String) : Except Error Pattern :=
  let ts := tokens source.toList
  if atDangling ts then .error .malformed
  else (readAll (4 * ts.length + 8)).run' { rest := ts, flags := f }

end RuleReview.Pattern
