import RuleReview.Decimal.Integer
import RuleReview.Decimal.Shortest
import RuleReview.Proofs.Text.Words
import Mathlib.Algebra.Ring.Nat
import Mathlib.Data.List.Basic

/-! Reading the digits of a natural number gives the number, unless they are too many. -/

namespace RuleReview.Decimal

theorem digits_ne_nil (n : Nat) : digits n ≠ [] := Nat.toDigits_ne_nil

theorem isDigit_of_mem_digits {n : Nat} {c : Char} (h : c ∈ digits n) : c.isDigit = true :=
  Nat.isDigit_of_mem_toDigits (by decide) (by decide) h

theorem length_digits_le_iff {n k : Nat} (hk : 0 < k) :
    (digits n).length ≤ k ↔ n < 10 ^ k := Nat.length_toDigits_le_iff (by decide) hk

/-- A digit below the first 128 characters has its distance from zero as its value. -/
theorem digitValue?_of_isDigit {c : Char} (h : c.isDigit = true) :
    Text.digitValue? c = some (c.toNat - 48) := by
  have hc : c.val < 0x80 := by
    simp only [Char.isDigit, Bool.and_eq_true, decide_eq_true_eq] at h
    exact UInt32.lt_of_le_of_lt h.2 (by decide)
  rw [Text.digitValue?, if_pos hc, if_pos h]

theorem isDecimal_of_isDigit {c : Char} (h : c.isDigit = true) : Text.isDecimal c = true := by
  rw [Text.isDecimal, digitValue?_of_isDigit h]
  rfl

theorem isDecimal_of_mem_digits {n : Nat} {c : Char} (h : c ∈ digits n) :
    Text.isDecimal c = true := isDecimal_of_isDigit (isDigit_of_mem_digits h)

theorem isBlank_of_isDigit {c : Char} (h : c.isDigit = true) : Text.isBlank c = false := by
  simp only [Char.isDigit, Bool.and_eq_true, decide_eq_true_eq] at h
  have hascii : c.val < 0x80 := UInt32.lt_of_le_of_lt h.2 (by decide)
  have habove {x : UInt32} (hx : x < '0'.val) : ¬ c.val ≤ x :=
    UInt32.not_le.2 (UInt32.lt_of_lt_of_le hx h.1)
  rw [Text.isBlank, if_pos hascii]
  simp [habove (x := 0x0d) (by decide), habove (x := 0x20) (by decide)]

theorem isWord_digits (n : Nat) : Text.IsWord (digits n) :=
  ⟨digits_ne_nil n, fun _ hc => isBlank_of_isDigit (isDigit_of_mem_digits hc)⟩

theorem toList_toString_nat (n : Nat) : (toString n).toList = digits n := Nat.toList_repr

theorem isWord_toString (n : Int) : Text.IsWord (toString n).toList := by
  cases n with
  | ofNat n =>
    show Text.IsWord (toString n).toList
    rw [toList_toString_nat]
    exact isWord_digits n
  | negSucc n =>
    have hsigned : (toString (Int.negSucc n)).toList = ['-'] ++ digits (n + 1) := by
      simp [Int.toString_eq_repr, Int.repr, digits]
    rw [hsigned]
    exact Text.IsWord.append (by decide) (isWord_digits _).2

theorem mem_twoPlaces {x : Rat} {c : Char} (h : c ∈ (twoPlaces x).toList) :
    c.isDigit = true ∨ c = '.' := by
  rw [twoPlaces, String.toList_ofList, padDigits, List.mem_append, List.mem_cons,
    List.mem_append] at h
  rcases h with h | rfl | h | h
  · exact .inl (isDigit_of_mem_digits h)
  · exact .inr rfl
  · exact .inl (List.eq_of_mem_replicate h ▸ by decide)
  · exact .inl (isDigit_of_mem_digits h)

theorem isWord_twoPlaces (x : Rat) : Text.IsWord (twoPlaces x).toList := by
  refine ⟨by simp [twoPlaces], fun c hc => ?_⟩
  rcases mem_twoPlaces hc with h | rfl
  · exact isBlank_of_isDigit h
  · decide

theorem ofDigits_digits (n : Nat) :
    ofDigits ((digits n).filterMap Text.digitValue?) = n := by
  have hvalues (cs : List Char) (h : ∀ c ∈ cs, c.isDigit = true) :
      cs.filterMap Text.digitValue? = cs.map (·.toNat - 48) := by
    rw [← List.filterMap_eq_map]
    exact List.filterMap_congr fun c hc => digitValue?_of_isDigit (h c hc)
  rw [hvalues _ fun _ hc => isDigit_of_mem_digits hc, ofDigits, List.foldl_map]
  exact Nat.ofDigitChars_ten_toDigits

theorem readDigits_eq_error_iff {ds : List Char} {e : IntegerError} :
    readDigits ds = .error e ↔ maxDigits < ds.length ∧ e = .tooLong ds.length := by
  rw [readDigits]
  split
  next h => simp [h, eq_comm]
  next h => simp [h]

theorem readDigits_digits {n : Nat} (h : n < 10 ^ maxDigits) : readDigits (digits n) = .ok n := by
  have hlength : (digits n).length ≤ maxDigits := (length_digits_le_iff (by decide)).2 h
  rw [readDigits, if_neg (by omega), ofDigits_digits]

theorem readDigits_digits_of_le {n : Nat} (h : 10 ^ maxDigits ≤ n) :
    readDigits (digits n) = .error (.tooLong (digits n).length) := by
  have hlength : ¬ (digits n).length ≤ maxDigits := by
    rw [length_digits_le_iff (by decide)]
    omega
  exact readDigits_eq_error_iff.2 ⟨by omega, rfl⟩

theorem lt_pow_maxDigits {n : Nat} (h : n < 10) : n < 10 ^ maxDigits :=
  Nat.lt_of_lt_of_le h (Nat.le_self_pow (by decide) 10)

end RuleReview.Decimal
