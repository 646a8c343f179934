import RuleReview.Pattern.Basic

/-! Flags of a pattern and of its groups, and changes of them. -/

namespace RuleReview.Pattern

structure Flags where
  ignoreCase : Bool := false
  rows : Bool := false
  dotAll : Bool := false
  verbose : Bool := false
  ascii : Bool := false
  deriving DecidableEq, Repr

/-- How letter case is treated under the flags. -/
def Flags.folding (f : Flags) : Folding :=
  if !f.ignoreCase then .exact else if f.ascii then .ascii else .full

/-- Flags being turned on or off: those with an effect, the two that choose between all
scripts and the first 128 characters, and the one that forbids repetition. -/
structure FlagChange where
  ignoreCase : Bool := false
  rows : Bool := false
  dotAll : Bool := false
  verbose : Bool := false
  ascii : Bool := false
  allScripts : Bool := false
  template : Bool := false
  deriving DecidableEq, Repr

def FlagChange.add? (d : FlagChange) : Char → Option FlagChange
  | 'i' => some { d with ignoreCase := true }
  | 'm' => some { d with rows := true }
  | 's' => some { d with dotAll := true }
  | 'x' => some { d with verbose := true }
  | 'a' => some { d with ascii := true }
  | 'u' => some { d with allScripts := true }
  | 't' => some { d with template := true }
  | _ => none

/-- Whether a choice of scripts is among the flags. -/
def FlagChange.choosesScripts (d : FlagChange) : Bool := d.ascii || d.allScripts

/-- Whether two changes have a flag in common. -/
def FlagChange.overlaps (a b : FlagChange) : Bool :=
  (a.ignoreCase && b.ignoreCase) || (a.rows && b.rows) || (a.dotAll && b.dotAll)
    || (a.verbose && b.verbose) || (a.ascii && b.ascii) || (a.allScripts && b.allScripts)
    || (a.template && b.template)

def Flags.change (f : Flags) (on off : FlagChange) : Flags where
  ignoreCase := (f.ignoreCase || on.ignoreCase) && !off.ignoreCase
  rows := (f.rows || on.rows) && !off.rows
  dotAll := (f.dotAll || on.dotAll) && !off.dotAll
  verbose := (f.verbose || on.verbose) && !off.verbose
  ascii := if on.choosesScripts then on.ascii else f.ascii

end RuleReview.Pattern
