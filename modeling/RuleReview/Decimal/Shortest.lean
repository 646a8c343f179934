import RuleReview.Decimal.Binary64

/-! Decimal texts of numbers of 64 bits: the fewest digits that read back, the closest
such digits, positional from `10 ^ -4` up to `10 ^ 16`; and texts with a fixed number
of places, rounded from the exact value. -/

namespace RuleReview.Decimal

/-- The greatest `e` with `10 ^ e ≤ num / den`, for positive numbers. -/
def floorLog10 (num den : Nat) : Int :=
  if den ≤ num then (digits (num / den)).length - 1
  else
    let k := (digits (den / num)).length - 1
    if den ≤ num * Nat.pow 10 k then -k else -(k + 1)

/-- The closest whole multiple of `10 ^ e` to `num / den` among its two neighbours that
reads back as `num / den`. -/
def neighbour? (num den : Nat) (e : Int) : Option Nat :=
  let (n, d) := scaleDown 10 num den e
  let reads (m : Nat) : Bool := nearest (scaleUp 10 m e) == mkRat num den
  let below := n / d
  let closest := roundDiv n d
  if reads closest then some closest
  else if reads below then some below
  else if reads (below + 1) then some (below + 1)
  else none

/-- The fewest digits that read back as `num / den`, and the exponent of the last one. -/
def shortestDigits (num den : Nat) : Nat × Int :=
  let top := floorLog10 num den
  let found := (List.range 17).findSome? fun (n : Nat) =>
    let e := top - (n : Int)
    (neighbour? num den e).map fun m => (m, e)
  found.getD (0, 0)

/-- Digits without the zeros at the end, and their exponent. -/
def dropZeros : (fuel : Nat) → Nat × Int → Nat × Int
  | 0, r => r
  | fuel + 1, (m, e) => if m % 10 = 0 && m ≠ 0 then dropZeros fuel (m / 10, e + 1) else (m, e)

/-- An exponent with its sign and at least two digits. -/
def exponentText (e : Int) : List Char :=
  let ds := digits e.natAbs
  (if e < 0 then '-' else '+') :: (if ds.length < 2 then '0' :: ds else ds)

/-- Digits and the exponent of the last one as a text: positional with a point and at
least one place, or with one digit before the point and an exponent. -/
def layOut (m : Nat) (e : Int) : List Char :=
  let ds := digits m
  let point : Int := ds.length + e
  if -4 < point && point ≤ 16 then
    if point ≤ 0 then '0' :: '.' :: List.replicate (-point).toNat '0' ++ ds
    else if ds.length ≤ point.toNat then
      ds ++ List.replicate (point.toNat - ds.length) '0' ++ ['.', '0']
    else ds.take point.toNat ++ '.' :: ds.drop point.toNat
  else
    let places := ds.drop 1
    ds.take 1 ++ (if places.isEmpty then [] else '.' :: places) ++ 'e' :: exponentText (point - 1)

/-- The fewest digits of a positive number that read back. -/
def positiveText (x : Rat) : List Char :=
  let (m, e) := dropZeros 20 (shortestDigits x.num.natAbs x.den)
  layOut m e

/-- A rational number on the grid of 64-bit numbers. -/
def text (x : Rat) : String :=
  if x.num = 0 then "0.0"
  else if x.num < 0 then String.ofList ('-' :: positiveText (-x))
  else String.ofList (positiveText x)

/-- A number of 64 bits in messages. -/
def Binary64.text : Binary64 → String
  | .finite x => Decimal.text x
  | .negativeZero => "-0.0"
  | .infinity false => "inf"
  | .infinity true => "-inf"
  | .notANumber => "nan"

/-- Digits padded with zeros at the front. -/
def padDigits (width n : Nat) : List Char :=
  let ds := digits n
  List.replicate (width - ds.length) '0' ++ ds

/-- A number that is not negative with two places; a half goes to the even neighbour. -/
def twoPlaces (x : Rat) : String :=
  let cents := roundDiv (x.num.natAbs * 100) x.den
  String.ofList (digits (cents / 100) ++ '.' :: padDigits 2 (cents % 100))

/-- A number that is not negative rounded to two places. -/
def roundTwo (x : Rat) : Rat := nearest (mkRat (roundDiv (x.num.natAbs * 100) x.den) 100)

end RuleReview.Decimal
