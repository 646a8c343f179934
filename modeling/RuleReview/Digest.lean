import RuleReview.Text.Quoted

/-! The digest of 160 bits of the secure hash standard: a message is padded to whole
blocks of sixteen words, and each block turns the state of five words into the next. -/

namespace RuleReview.Digest

/-- A word with its bits turned to the left. -/
def rotate (x : UInt32) (n : UInt32) : UInt32 := (x <<< n) ||| (x >>> (32 - n))

structure State where
  a : UInt32
  b : UInt32
  c : UInt32
  d : UInt32
  e : UInt32
  deriving DecidableEq, Repr

def State.initial : State := ⟨0x67452301, 0xefcdab89, 0x98badcfe, 0x10325476, 0xc3d2e1f0⟩

/-- The sum of two states, word by word. -/
def State.add (s t : State) : State := ⟨s.a + t.a, s.b + t.b, s.c + t.c, s.d + t.d, s.e + t.e⟩

def State.words (s : State) : List UInt32 := [s.a, s.b, s.c, s.d, s.e]

/-- The mixture of three words in a round, with the constant of the round. -/
def mix (round : Nat) (b c d : UInt32) : UInt32 :=
  if round < 20 then ((b &&& c) ||| (~~~b &&& d)) + 0x5a827999
  else if round < 40 then (b ^^^ c ^^^ d) + 0x6ed9eba1
  else if round < 60 then ((b &&& c) ||| (b &&& d) ||| (c &&& d)) + 0x8f1bbcdc
  else (b ^^^ c ^^^ d) + 0xca62c1d6

def State.step (s : State) (round : Nat) (word : UInt32) : State :=
  ⟨rotate s.a 5 + mix round s.b s.c s.d + s.e + word, s.a, rotate s.b 30, s.c, s.d⟩

/-- The states of rounds one after the other. -/
def State.run (s : State) (round : Nat) : List UInt32 → State
  | [] => s
  | w :: ws => (s.step round w).run (round + 1) ws

def extend (words : List UInt32) : (n : Nat) → List UInt32
  | 0 => words
  | n + 1 =>
    let word (i : Nat) : UInt32 := words.getD i 0
    extend (rotate (word 2 ^^^ word 7 ^^^ word 13 ^^^ word 15) 1 :: words) n

/-- The state after a block of sixteen words. -/
def State.absorb (s : State) (block : List UInt32) : State :=
  s.add (s.run 0 (extend block.reverse 64).reverse)

/-- A word of four bytes, the most significant first. -/
def wordOf (bytes : List UInt8) : UInt32 := bytes.foldl (fun w b => (w <<< 8) ||| b.toUInt32) 0

/-- The first `count` parts of `size` items. -/
def parts (size : Nat) (xs : List α) : (count : Nat) → List (List α)
  | 0 => []
  | count + 1 => xs.take size :: parts size (xs.drop size) count

/-- The last `width` bytes of a number. -/
def bytesOf (n : Nat) : (width : Nat) → List UInt8
  | 0 => []
  | width + 1 => bytesOf (n / 256) width ++ [UInt8.ofNat n]

/-- A message with a mark, zeros and its length in bits, which fill its last block. -/
def pad (message : List UInt8) : List UInt8 :=
  let zeros := (119 - message.length % 64) % 64
  message ++ 0x80 :: List.replicate zeros 0 ++ bytesOf (8 * message.length) 8

def blocks (message : List UInt8) : List (List UInt32) :=
  let padded := pad message
  let words := (parts 4 padded (padded.length / 4)).map wordOf
  parts 16 words (words.length / 16)

def digest (message : List UInt8) : State := (blocks message).foldl State.absorb State.initial

/-- The digest of a text in forty hexadecimal digits. -/
def hex (s : String) : List Char :=
  (digest s.toUTF8.toList).words.flatMap fun w => Text.hexDigits w.toNat 8

end RuleReview.Digest
