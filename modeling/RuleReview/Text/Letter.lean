/-! Texts in which a character may be torn. What escapes and bytes tell are numbers, and those
of surrogates are halves of characters. A half may stand alone in a text, but no such text can be
written in UTF-8. -/

namespace RuleReview.Text

/-- A character, or a half of one that stands alone. -/
inductive Letter
  | whole (c : Char)
  | half (n : Fin 0x800)
  deriving DecidableEq, Repr

namespace Letter

def ofNat (n : Nat) : Letter :=
  if h : 0xd800 ≤ n ∧ n < 0xe000 then .half ⟨n - 0xd800, by omega⟩ else .whole (Char.ofNat n)

def isHalf : Letter → Bool
  | whole _ => false
  | half _ => true

/-- Whether a letter stands for a byte of which a name of a file is not UTF-8. -/
def isByte : Letter → Bool
  | whole _ => false
  | half n => decide (0x480 ≤ n.val ∧ n.val < 0x500)

/-- The character of a letter, a replacement character for a half. -/
def char : Letter → Char
  | whole c => c
  | half _ => '\ufffd'

/-- The character of two halves. -/
def join (high low : Nat) : Char :=
  Char.ofNat (0x10000 + (high - 0xd800) * 0x400 + (low - 0xdc00))

end Letter

theorem Letter.ofNat_of_lt {n : Nat} (h : n < 0xd800) : ofNat n = .whole (Char.ofNat n) :=
  dif_neg fun hhalf => Nat.not_le_of_lt h hhalf.1

def lettersOf (s : String) : List Letter := s.toList.map .whole

def isTorn (ls : List Letter) : Bool := ls.any Letter.isHalf

/-- The text of letters, with a replacement character for each half. -/
def mend (ls : List Letter) : String := String.ofList (ls.map Letter.char)

theorem mend_lettersOf (s : String) : mend (lettersOf s) = s := by
  rw [mend, lettersOf, List.map_map, show Letter.char ∘ Letter.whole = id from rfl, List.map_id,
    String.ofList_toList]

theorem isTorn_lettersOf (s : String) : isTorn (lettersOf s) = false := by
  rw [isTorn, lettersOf, List.any_map]
  exact List.any_eq_false.2 fun _ _ => nofun

end RuleReview.Text
