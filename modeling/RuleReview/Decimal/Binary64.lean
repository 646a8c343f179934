/-! The finite numbers with a significand of 53 bits and an exponent from -1074 on,
as the rational numbers they are. An operation on them is the exact operation
followed by `nearest`, which takes the closest of these numbers and, between two
equally close ones, the one with the even significand. -/

namespace RuleReview.Decimal

/-- The whole number closest to a quotient; a half goes to the even neighbour. -/
def roundDiv (num den : Nat) : Nat :=
  let q := num / den
  let r := num % den
  if 2 * r < den ∨ (2 * r = den ∧ q % 2 = 0) then q else q + 1

def atLeastPower (base num den : Nat) (e : Int) : Bool :=
  match e with
  | .ofNat k => den * base.pow k ≤ num
  | .negSucc k => den ≤ num * base.pow (k + 1)

/-- The greatest `e` with `2 ^ e ≤ num / den`, for positive numbers. -/
def floorLog2 (num den : Nat) : Int :=
  let guess : Int := num.log2 - den.log2
  if atLeastPower 2 num den guess then guess else guess - 1

/-- The exponent of the last bit that a number near `num / den` has. -/
def lastBit (num den : Nat) : Int := max (floorLog2 num den - 52) (-1074)

/-- `num / den` divided by `base ^ e`, as a numerator and a denominator. -/
def scaleDown (base num den : Nat) (e : Int) : Nat × Nat :=
  match e with
  | .ofNat k => (num, den * base.pow k)
  | .negSucc k => (num * base.pow (k + 1), den)

def scaleUp (base : Nat) (m : Nat) (e : Int) : Rat :=
  match e with
  | .ofNat k => (m * base.pow k : Nat)
  | .negSucc k => (m : Rat) / (base.pow (k + 1) : Nat)

/-- The closest number to a quotient of positive numbers, without a greatest number. -/
def nearestQuotient (num den : Nat) : Rat :=
  let e := lastBit num den
  let (n, d) := scaleDown 2 num den e
  scaleUp 2 (roundDiv n d) e

/-- The closest number to a rational number, without a greatest number. -/
def nearest (x : Rat) : Rat :=
  if x.num = 0 then 0
  else if x.num < 0 then -nearestQuotient x.num.natAbs x.den
  else nearestQuotient x.num.natAbs x.den

/-- Past the greatest finite number. -/
def overflow : Rat := (Nat.pow 2 1024 : Nat)

/-- A number that is too large in amount for the finite ones. -/
def isTooLarge (x : Rat) : Bool := overflow ≤ x || x ≤ -overflow

/-- The closest finite number to a whole number. -/
def ofWhole? (n : Int) : Option Rat :=
  let x := nearest n
  if isTooLarge x then none else some x

/-- A number of 64 bits: finite, a zero with a sign, infinite or none at all. -/
inductive Binary64
  | finite (x : Rat)
  | negativeZero
  | infinity (negative : Bool)
  | notANumber
  deriving DecidableEq, Repr

/-- The number closest to a rational number. -/
def Binary64.ofRat (x : Rat) : Binary64 :=
  let y := nearest x
  if overflow ≤ y then .infinity false
  else if y ≤ -overflow then .infinity true
  else .finite y

/-- The finite value, with zero for a zero of either sign. -/
def Binary64.toRat? : Binary64 → Option Rat
  | .finite x => some x
  | .negativeZero => some 0
  | _ => none

def digits (n : Nat) : List Char := Nat.toDigits 10 n

/-- `mantissa * 10 ^ exponent` to the closest number. The sign is kept by a zero. Far
outside the range of finite numbers the power is not formed. -/
def Binary64.ofScientific (negative : Bool) (mantissa : Nat) (exponent : Int) : Binary64 :=
  let size : Int := (digits mantissa).length + exponent
  let magnitude : Binary64 :=
    if mantissa = 0 || size < -400 then .finite 0
    else if 400 < size then .infinity false
    else .ofRat (scaleUp 10 mantissa exponent)
  match negative, magnitude with
  | false, m => m
  | true, .finite x => if x = 0 then .negativeZero else .finite (-x)
  | true, _ => .infinity true

end RuleReview.Decimal
