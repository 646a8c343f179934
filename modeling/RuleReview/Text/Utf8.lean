import RuleReview.Text.Letter

/-! Decoding of UTF-8. A sequence that breaks off is malformed as far as it could
have been continued, so that each longest such part counts once. Sequences of halves of
characters are malformed unless they are asked for. -/

namespace RuleReview.Text.Utf8

/-- How far a sequence has come: the bytes still owed, the bits so far, and the
least and the greatest byte that may come next. -/
inductive Progress
  | start
  | within (owed : Nat) (bits : Nat) (least greatest : UInt8)

/-- The place after a first byte, none where no sequence starts with it. -/
def begin? (halves : Bool) (b : UInt8) : Option Progress :=
  let bits (mask : UInt8) : Nat := (b &&& mask).toNat
  if 0xc2 ≤ b && b ≤ 0xdf then some (.within 1 (bits 0x1f) 0x80 0xbf)
  else if b == 0xe0 then some (.within 2 (bits 0x0f) 0xa0 0xbf)
  else if b == 0xed then some (.within 2 (bits 0x0f) 0x80 (if halves then 0xbf else 0x9f))
  else if 0xe1 ≤ b && b ≤ 0xef then some (.within 2 (bits 0x0f) 0x80 0xbf)
  else if b == 0xf0 then some (.within 3 (bits 0x07) 0x90 0xbf)
  else if 0xf1 ≤ b && b ≤ 0xf3 then some (.within 3 (bits 0x07) 0x80 0xbf)
  else if b == 0xf4 then some (.within 3 (bits 0x07) 0x80 0x8f)
  else none

/-- What a first byte gives at once, and the place after it. -/
def first (halves : Bool) (b : UInt8) : List (Option Letter) × Progress :=
  if b < 0x80 then ([some (.ofNat b.toNat)], .start)
  else match begin? halves b with
    | some p => ([], p)
    | none => ([none], .start)

/-- What a byte gives at a place, and the place after it. -/
def step (halves : Bool) : Progress → UInt8 → List (Option Letter) × Progress
  | .start, b => first halves b
  | .within owed bits least greatest, b =>
    if least ≤ b && b ≤ greatest then
      let bits := bits * 64 + (b &&& 0x3f).toNat
      if owed ≤ 1 then ([some (.ofNat bits)], .start)
      else ([], .within (owed - 1) bits 0x80 0xbf)
    else
      let (out, p) := first halves b
      (none :: out, p)

/-- The letters of a byte sequence from a place on, `none` for a malformed part. -/
def decodeFrom (halves : Bool) : Progress → List UInt8 → List (Option Letter)
  | .start, [] => []
  | .within .., [] => [none]
  | p, b :: bs => (step halves p b).1 ++ decodeFrom halves (step halves p b).2 bs

/-- The characters of a byte sequence, `none` for each malformed part. -/
def decode (bytes : ByteArray) : List (Option Char) :=
  (decodeFrom false .start bytes.toList).map (·.map Letter.char)

def decode? (bytes : ByteArray) : Option String := (decode bytes).mapM id |>.map String.ofList

/-- The text of any bytes, a replacement character for each malformed part. -/
def decodeLossy (bytes : ByteArray) : String :=
  String.ofList ((decode bytes).map (·.getD '\ufffd'))

end RuleReview.Text.Utf8
