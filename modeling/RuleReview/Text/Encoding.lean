import RuleReview.Text.Utf8

/-! The encoding of a text in bytes that do not name it. A mark of byte order at the front
settles it, and else the places of zero bytes among the first four: a text in units of two
or four bytes starts with a character of the first 128. Halves of characters are let through. -/

namespace RuleReview.Text

inductive ByteOrder
  | big
  | little
  deriving DecidableEq, Repr

/-- A way to write characters as bytes. -/
inductive Encoding
  | utf8
  | utf16 (o : ByteOrder)
  | utf32 (o : ByteOrder)
  deriving DecidableEq, Repr

namespace Encoding

/-- The encoding of some bytes and the bytes without a mark of byte order. -/
def detect : List UInt8 → Encoding × List UInt8
  | 0x00 :: 0x00 :: 0xfe :: 0xff :: bs => (.utf32 .big, bs)
  | 0xff :: 0xfe :: 0x00 :: 0x00 :: bs => (.utf32 .little, bs)
  | 0xfe :: 0xff :: bs => (.utf16 .big, bs)
  | 0xff :: 0xfe :: bs => (.utf16 .little, bs)
  | 0xef :: 0xbb :: 0xbf :: bs => (.utf8, bs)
  | a :: b :: c :: d :: bs =>
    let all := a :: b :: c :: d :: bs
    if a == 0 then (if b == 0 then .utf32 .big else .utf16 .big, all)
    else if b == 0 then (if c == 0 && d == 0 then .utf32 .little else .utf16 .little, all)
    else (.utf8, all)
  | [a, b] => (if a == 0 then .utf16 .big else if b == 0 then .utf16 .little else .utf8, [a, b])
  | bs => (.utf8, bs)

/-- Units of two bytes. -/
def pairs? (o : ByteOrder) : List UInt8 → Option (List Nat)
  | [] => some []
  | [_] => none
  | a :: b :: bs => do
    let n := match o with
      | .big => a.toNat * 256 + b.toNat
      | .little => b.toNat * 256 + a.toNat
    return n :: (← pairs? o bs)

/-- Units of four bytes. -/
def quads? (o : ByteOrder) : List UInt8 → Option (List Nat)
  | [] => some []
  | a :: b :: c :: d :: bs => do
    let digits := match o with
      | .big => [a, b, c, d]
      | .little => [d, c, b, a]
    return digits.foldl (fun n x => n * 256 + x.toNat) 0 :: (← quads? o bs)
  | _ => none

/-- The letters of units of 16 bits, of which two may stand for one character. -/
def joinPairs : List Nat → List Letter
  | high :: low :: us =>
    if 0xd800 ≤ high ∧ high ≤ 0xdbff ∧ 0xdc00 ≤ low ∧ low ≤ 0xdfff then
      .whole (Letter.join high low) :: joinPairs us
    else .ofNat high :: joinPairs (low :: us)
  | [u] => [.ofNat u]
  | [] => []

/-- The letters that bytes stand for, none where they break off or are malformed. -/
def decode? : Encoding → List UInt8 → Option (List Letter)
  | .utf8, bs => (Utf8.decodeFrom true .start bs).mapM id
  | .utf16 o, bs => (pairs? o bs).map joinPairs
  | .utf32 o, bs => do
    let ns ← quads? o bs
    if ns.all (· < 0x110000) then some (ns.map .ofNat) else none

end Encoding

/-- The letters of bytes in the encoding that they tell. -/
def decodeDetected? (bytes : ByteArray) : Option (List Letter) :=
  let (e, bs) := Encoding.detect bytes.toList
  e.decode? bs

end RuleReview.Text
