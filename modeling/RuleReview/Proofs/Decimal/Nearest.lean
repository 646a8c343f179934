import Mathlib.Algebra.Order.Field.Power
import Mathlib.Algebra.Order.Field.Rat
import Mathlib.Data.Int.Log
import Mathlib.Data.Rat.Cast.Order
import Mathlib.Data.Rat.Floor
import Mathlib.Tactic.FieldSimp
import Mathlib.Tactic.Linarith
import Mathlib.Tactic.Positivity
import Mathlib.Tactic.Ring
import RuleReview.Decimal.Binary64

/-! How far rounding can lead. A quotient is rounded up only where its fraction is a half at
least, so the closest number to a number that is not negative is at most twice that number, down
to the smallest numbers. This is enough to see that the ratios of figures are far from the
greatest finite number. What has a significand of 53 bits and is not too small, powers of two and
small whole numbers among them, is one of the numbers, so that rounding does not lead past it. A
whole number of many bits is rounded to its first 53 bits, so it reaches a power of two from half a
unit before that power on, and the whole numbers that are too large start there. -/

namespace RuleReview.Decimal

theorem roundDiv_mul_le (n d : Nat) : roundDiv n d * d ≤ 2 * n := by
  have hdivision : d * (n / d) + n % d = n := Nat.div_add_mod n d
  rw [roundDiv]
  split
  next => rw [Nat.mul_comm]; omega
  next hup => rw [Nat.succ_mul, Nat.mul_comm]; omega

theorem roundDiv_le {n d : Nat} (hd : 0 < d) : (roundDiv n d : Rat) ≤ 2 * ((n : Rat) / d) := by
  rw [← mul_div_assoc, le_div_iff₀ (by exact_mod_cast hd)]
  exact_mod_cast roundDiv_mul_le n d

theorem scaleUp_eq (m : Nat) (e : Int) : scaleUp 2 m e = m * (2 : Rat) ^ e := by
  cases e with
  | ofNat k => simp [scaleUp]
  | negSucc k => simp [scaleUp, zpow_negSucc, div_eq_mul_inv]

theorem scaleDown_pos {den : Nat} (hden : 0 < den) (num : Nat) (e : Int) :
    0 < (scaleDown 2 num den e).2 := by
  cases e with
  | ofNat k => exact Nat.mul_pos hden (Nat.pow_pos Nat.two_pos)
  | negSucc k => exact hden

theorem scaleDown_eq (num den : Nat) (e : Int) :
    ((scaleDown 2 num den e).1 : Rat) / (scaleDown 2 num den e).2 =
      (num : Rat) / den / (2 : Rat) ^ e := by
  cases e with
  | ofNat k => simp [scaleDown, div_div]
  | negSucc k => simp [scaleDown, zpow_negSucc, div_eq_mul_inv, mul_right_comm]

theorem nearestQuotient_nonneg (num den : Nat) : 0 ≤ nearestQuotient num den := by
  rw [nearestQuotient]
  simp only [scaleUp_eq]
  positivity

theorem nearestQuotient_le {num den : Nat} (hden : 0 < den) :
    nearestQuotient num den ≤ 2 * ((num : Rat) / den) := by
  set e := lastBit num den with he
  have hunit : (0 : Rat) < 2 ^ e := by positivity
  calc nearestQuotient num den
      = roundDiv (scaleDown 2 num den e).1 (scaleDown 2 num den e).2 * (2 : Rat) ^ e :=
        scaleUp_eq _ _
    _ ≤ 2 * ((num : Rat) / den / 2 ^ e) * 2 ^ e := by
        rw [← scaleDown_eq]
        exact mul_le_mul_of_nonneg_right (roundDiv_le (scaleDown_pos hden num e)) hunit.le
    _ = 2 * ((num : Rat) / den) := by field_simp

theorem nearest_nonneg {x : Rat} (hx : 0 ≤ x) : 0 ≤ nearest x := by
  have hnum : ¬ x.num < 0 := not_lt.2 (Rat.num_nonneg.2 hx)
  rw [nearest, if_neg hnum]
  split
  next => exact le_rfl
  next => exact nearestQuotient_nonneg _ _

theorem nearest_le {x : Rat} (hx : 0 ≤ x) : nearest x ≤ 2 * x := by
  have hnum : 0 ≤ x.num := Rat.num_nonneg.2 hx
  rw [nearest, if_neg (not_lt.2 hnum)]
  split
  next => positivity
  next =>
    have hquotient : nearestQuotient x.num.natAbs x.den ≤ 2 * ((x.num.natAbs : Rat) / x.den) :=
      nearestQuotient_le x.den_pos
    have hcast : ((x.num.natAbs : Nat) : Rat) = (x.num : Rat) := by
      rw [← Int.cast_natCast, Int.natAbs_of_nonneg hnum]
    rwa [hcast, Rat.num_div_den] at hquotient

theorem pow_lt_overflow {j : Nat} (h : j < 1024) : ((Nat.pow 2 j : Nat) : Rat) < overflow := by
  rw [overflow]
  -- the exponent is made a variable, so that the power is not formed
  generalize 1024 = k at *
  exact Nat.cast_lt.2 (Nat.pow_lt_pow_right Nat.one_lt_two h)

/-- A number that is not negative is not too large below the power of two that is past the
greatest finite number. -/
theorem isTooLarge_eq_false {x : Rat} (hx : 0 ≤ x) (hlarge : x < overflow) :
    isTooLarge x = false := by
  have hoverflow : (0 : Rat) ≤ overflow := Nat.cast_nonneg _
  rw [isTooLarge, Bool.or_eq_false_iff, decide_eq_false_iff_not, decide_eq_false_iff_not]
  exact ⟨not_le.2 hlarge, by linarith⟩

/-! ### The exponent of a quotient -/

theorem atLeastPower_iff {num den : Nat} (hden : 0 < den) (e : Int) :
    atLeastPower 2 num den e = true ↔ (2 : Rat) ^ e ≤ (num : Rat) / den := by
  have hpos : (0 : Rat) < den := Nat.cast_pos.2 hden
  rw [le_div_iff₀ hpos]
  cases e with
  | ofNat k =>
    rw [atLeastPower, decide_eq_true_iff, Int.ofNat_eq_natCast, zpow_natCast, Nat.mul_comm]
    exact_mod_cast Iff.rfl
  | negSucc k =>
    have hpower : (0 : Rat) < 2 ^ (k + 1) := by positivity
    rw [atLeastPower, decide_eq_true_iff, zpow_negSucc, inv_mul_le_iff₀ hpower, Nat.mul_comm]
    exact_mod_cast Iff.rfl

/-- The lengths of the numbers of a quotient tell its exponent up to one. -/
theorem quotient_between {num den : Nat} (hnum : 0 < num) (hden : 0 < den) :
    (2 : Rat) ^ ((num.log2 : Int) - den.log2 - 1) < (num : Rat) / den ∧
      (num : Rat) / den < 2 ^ ((num.log2 : Int) - den.log2 + 1) := by
  have hpos : (0 : Rat) < den := Nat.cast_pos.2 hden
  have hnumLow : (2 : Rat) ^ num.log2 ≤ num := by
    exact_mod_cast Nat.log2_self_le hnum.ne'
  have hnumHigh : (num : Rat) < 2 ^ (num.log2 + 1) := by
    exact_mod_cast Nat.lt_log2_self
  have hdenLow : (2 : Rat) ^ den.log2 ≤ den := by
    exact_mod_cast Nat.log2_self_le hden.ne'
  have hdenHigh : (den : Rat) < 2 ^ (den.log2 + 1) := by
    exact_mod_cast Nat.lt_log2_self
  have htwo : (2 : Rat) ≠ 0 := two_ne_zero
  constructor
  · rw [lt_div_iff₀ hpos]
    calc (2 : Rat) ^ ((num.log2 : Int) - den.log2 - 1) * den
        < 2 ^ ((num.log2 : Int) - den.log2 - 1) * 2 ^ (den.log2 + 1) :=
          mul_lt_mul_of_pos_left hdenHigh (by positivity)
      _ = 2 ^ num.log2 := by
          rw [← zpow_natCast, ← zpow_natCast, ← zpow_add₀ htwo]
          congr 1
          push_cast
          omega
      _ ≤ num := hnumLow
  · rw [div_lt_iff₀ hpos]
    calc (num : Rat) < 2 ^ (num.log2 + 1) := hnumHigh
      _ = 2 ^ ((num.log2 : Int) - den.log2 + 1) * 2 ^ den.log2 := by
          rw [← zpow_natCast, ← zpow_natCast, ← zpow_add₀ htwo]
          congr 1
          push_cast
          omega
      _ ≤ 2 ^ ((num.log2 : Int) - den.log2 + 1) * den :=
          mul_le_mul_of_nonneg_left hdenLow (by positivity)

theorem floorLog2_eq_log {num den : Nat} (hnum : 0 < num) (hden : 0 < den) :
    floorLog2 num den = Int.log 2 ((num : Rat) / den) := by
  have hquotient : (0 : Rat) < (num : Rat) / den :=
    div_pos (Nat.cast_pos.2 hnum) (Nat.cast_pos.2 hden)
  obtain ⟨hlow, hhigh⟩ := quotient_between hnum hden
  have hlog (e : Int) : (2 : Rat) ^ e ≤ (num : Rat) / den ↔ e ≤ Int.log 2 ((num : Rat) / den) :=
    Int.zpow_le_iff_le_log one_lt_two hquotient
  rw [floorLog2]
  have hbelow := (hlog _).1 hlow.le
  have habove := (hlog _).not.1 (not_le.2 hhigh)
  split
  next hguess =>
    have := (hlog _).1 ((atLeastPower_iff hden _).1 hguess)
    omega
  next hguess =>
    have := (hlog _).not.1 ((atLeastPower_iff hden _).not.1 hguess)
    omega

/-! ### Rounding to the last bit -/

theorem roundDiv_add {r d : Nat} (hr : r < d) (q : Nat) :
    roundDiv (d * q + r) d = if 2 * r < d ∨ (2 * r = d ∧ q % 2 = 0) then q else q + 1 := by
  have hd : 0 < d := by omega
  rw [roundDiv, Nat.mul_add_div hd, Nat.div_eq_of_lt hr, Nat.mul_add_mod, Nat.mod_eq_of_lt hr,
    Nat.add_zero]

theorem div_le_roundDiv (n d : Nat) : n / d ≤ roundDiv n d := by
  rw [roundDiv]
  split <;> omega

theorem roundDiv_le_of_le {n d m : Nat} (hd : 0 < d) (h : n ≤ m * d) : roundDiv n d ≤ m := by
  obtain ⟨q, r, hr, rfl⟩ : ∃ q r, r < d ∧ n = d * q + r :=
    ⟨n / d, n % d, Nat.mod_lt n hd, (Nat.div_add_mod n d).symm⟩
  rw [roundDiv_add hr]
  rcases Nat.lt_or_ge q m with hlt | hge
  · split <;> omega
  · have hmul : m * d ≤ d * q := by
      rw [Nat.mul_comm d]
      exact Nat.mul_le_mul_right d hge
    have hq : q ≤ m := by
      rw [← Nat.mul_le_mul_left_iff hd, Nat.mul_comm d m]
      omega
    rw [if_pos (.inl (by omega))]
    exact hq

theorem le_roundDiv_of_le {n d m : Nat} (hd : 0 < d) (h : m * d ≤ n) : m ≤ roundDiv n d :=
  ((Nat.le_div_iff_mul_le hd).2 h).trans (div_le_roundDiv n d)

/-- A number is rounded to a multiple of the unit of its last bit. -/
theorem nearestQuotient_eq {num den : Nat} (hden : 0 < den) {e : Int}
    (hbit : lastBit num den ≤ e) : ∃ n d k : Nat, 0 < d ∧
      (num : Rat) / den = n / d * 2 ^ lastBit num den ∧
      nearestQuotient num den = roundDiv n d * 2 ^ lastBit num den ∧
      (2 : Rat) ^ e = (2 ^ k : Nat) * 2 ^ lastBit num den := by
  obtain ⟨k, hk⟩ := Int.le.dest hbit
  refine ⟨(scaleDown 2 num den (lastBit num den)).1, (scaleDown 2 num den (lastBit num den)).2, k,
    scaleDown_pos hden num _, ?_, scaleUp_eq _ _, ?_⟩
  · rw [scaleDown_eq, div_mul_cancel₀ _ (zpow_ne_zero _ two_ne_zero)]
  · rw [← hk, zpow_add₀ two_ne_zero, zpow_natCast, mul_comm]
    norm_cast

/-- Rounding does not lead above a multiple of the last bit. -/
theorem nearestQuotient_le_of_le {num den m : Nat} (hden : 0 < den) {e : Int}
    (hbit : lastBit num den ≤ e) (h : (num : Rat) / den ≤ m * 2 ^ e) :
    nearestQuotient num den ≤ m * 2 ^ e := by
  obtain ⟨n, d, k, hd, hquotient, hrounded, hpower⟩ := nearestQuotient_eq hden hbit
  have hunit : (0 : Rat) < 2 ^ lastBit num den := by positivity
  rw [hpower, ← mul_assoc, ← Nat.cast_mul] at h ⊢
  rw [hquotient, mul_le_mul_iff_left₀ hunit, div_le_iff₀ (Nat.cast_pos.2 hd)] at h
  rw [hrounded, mul_le_mul_iff_left₀ hunit, Nat.cast_le]
  exact roundDiv_le_of_le hd (by exact_mod_cast h)

/-- Rounding does not lead below a power of two that is a multiple of the last bit. -/
theorem zpow_le_nearestQuotient {num den : Nat} (hden : 0 < den) {e : Int}
    (hbit : lastBit num den ≤ e) (h : (2 : Rat) ^ e ≤ (num : Rat) / den) :
    2 ^ e ≤ nearestQuotient num den := by
  obtain ⟨n, d, k, hd, hquotient, hrounded, hpower⟩ := nearestQuotient_eq hden hbit
  have hunit : (0 : Rat) < 2 ^ lastBit num den := by positivity
  rw [hquotient, hpower, mul_le_mul_iff_left₀ hunit, le_div_iff₀ (Nat.cast_pos.2 hd)] at h
  rw [hrounded, hpower, mul_le_mul_iff_left₀ hunit, Nat.cast_le]
  exact le_roundDiv_of_le hd (by exact_mod_cast h)

/-! ### Rounding to the closest number -/

/-- A positive number is rounded as the quotient that it is. -/
theorem nearest_of_pos {x : Rat} (hx : 0 < x) :
    0 < x.num.natAbs ∧ nearest x = nearestQuotient x.num.natAbs x.den ∧
      (x.num.natAbs : Rat) / x.den = x := by
  have hnum : 0 < x.num := Rat.num_pos.2 hx
  have hcast : (x.num.natAbs : Rat) = (x.num : Rat) := by
    rw [← Int.cast_natCast, Int.natAbs_of_nonneg hnum.le]
  refine ⟨Int.natAbs_pos.2 hnum.ne', ?_, ?_⟩
  · rw [nearest, if_neg hnum.ne', if_neg hnum.not_gt]
  · rw [hcast, Rat.num_div_den]

/-- A number is not rounded above one with a significand of 53 bits that it is not above. -/
theorem nearest_le_of_le {x : Rat} {m : Nat} {e : Int} (hx : 0 ≤ x) (he : -1074 ≤ e)
    (hm : m < 2 ^ 53) (h : x ≤ m * 2 ^ e) : nearest x ≤ m * 2 ^ e := by
  rcases hx.eq_or_lt with rfl | hpos
  · exact h
  · obtain ⟨hnum, hnearest, hquotient⟩ := nearest_of_pos hpos
    rw [hnearest]
    refine nearestQuotient_le_of_le x.den_pos ?_ (hquotient.trans_le h)
    have hbelow : x < 2 ^ (e + 53) := by
      calc x ≤ m * 2 ^ e := h
        _ < 2 ^ 53 * 2 ^ e := mul_lt_mul_of_pos_right (by exact_mod_cast hm) (by positivity)
        _ = 2 ^ (e + 53) := by rw [zpow_add₀ two_ne_zero, mul_comm]; rfl
    have hlog := (Int.lt_zpow_iff_log_lt one_lt_two hpos).1 (by exact_mod_cast hbelow)
    rw [lastBit, floorLog2_eq_log hnum x.den_pos, hquotient]
    omega

/-- A number is not rounded above a power of two that it is not above. -/
theorem nearest_le_zpow {x : Rat} {e : Int} (hx : 0 ≤ x) (he : -1074 ≤ e) (h : x ≤ 2 ^ e) :
    nearest x ≤ 2 ^ e := by
  have hone := nearest_le_of_le (m := 1) hx he (by norm_num) (by simpa using h)
  simpa using hone

/-- A number is not rounded below a power of two that it is not below. -/
theorem zpow_le_nearest {x : Rat} {e : Int} (he : -1074 ≤ e) (h : 2 ^ e ≤ x) :
    2 ^ e ≤ nearest x := by
  have hpos : 0 < x := lt_of_lt_of_le (by positivity) h
  obtain ⟨hnum, hnearest, hquotient⟩ := nearest_of_pos hpos
  have hlog : e ≤ Int.log 2 x := (Int.zpow_le_iff_le_log one_lt_two hpos).1 h
  -- the last bit may be past the given power, but not past the greatest one below the number
  calc (2 : Rat) ^ e ≤ 2 ^ Int.log 2 x := zpow_le_zpow_right₀ one_le_two hlog
    _ ≤ nearest x := by
        rw [hnearest]
        refine zpow_le_nearestQuotient x.den_pos ?_ ?_
        · rw [lastBit, floorLog2_eq_log hnum x.den_pos, hquotient]
          omega
        · rw [hquotient]
          exact Int.zpow_log_le_self one_lt_two hpos

theorem nearest_zpow {e : Int} (he : -1074 ≤ e) : nearest (2 ^ e) = 2 ^ e :=
  le_antisymm (nearest_le_zpow (by positivity) he le_rfl) (zpow_le_nearest he le_rfl)

/-! ### Rounding to a power of two -/

/-- A quotient is rounded to an even number or past it exactly from half a unit before it on. -/
theorem le_roundDiv_iff {n d m : Nat} (hd : 0 < d) (hm : m % 2 = 0) (hpos : 0 < m) :
    m ≤ roundDiv n d ↔ (2 * m - 1) * d ≤ 2 * n := by
  obtain ⟨q, r, hr, rfl⟩ : ∃ q r, r < d ∧ n = d * q + r :=
    ⟨n / d, n % d, Nat.mod_lt n hd, (Nat.div_add_mod n d).symm⟩
  rw [roundDiv_add hr]
  rcases Nat.lt_trichotomy (q + 1) m with hbelow | rfl | habove
  · have hproduct : (2 * q + 3) * d ≤ (2 * m - 1) * d := Nat.mul_le_mul_right d (by omega)
    refine iff_of_false (by split <;> omega) (not_le.2 ?_)
    linarith
  · have hhalf : (2 * (q + 1) - 1) * d = 2 * (d * q) + d := by
      rw [show 2 * (q + 1) - 1 = 2 * q + 1 by omega]
      ring
    rw [hhalf]
    split <;> omega
  · have hproduct : (2 * m - 1) * d ≤ 2 * q * d := Nat.mul_le_mul_right d (by omega)
    refine iff_of_true (by split <;> omega) ?_
    linarith

theorem floorLog2_one {n : Nat} (hn : n ≠ 0) : floorLog2 n 1 = n.log2 := by
  have hguess : atLeastPower 2 n 1 (n.log2 : Int) = true := by
    simpa [atLeastPower] using Nat.log2_self_le hn
  have hone : ((n.log2 : Int) - (Nat.log2 1 : Int)) = n.log2 := Int.sub_zero _
  rw [floorLog2, hone, hguess]
  rfl

/-- A whole number of more than 52 bits is rounded to a multiple of the last of 53 bits. -/
theorem nearestQuotient_one {n k : Nat} (hn : n ≠ 0) (hk : n.log2 = k + 52) :
    nearestQuotient n 1 = ((roundDiv n (2 ^ k) * 2 ^ k : Nat) : Rat) := by
  have hbit : lastBit n 1 = (k : Int) := by
    rw [lastBit, floorLog2_one hn, hk]
    omega
  rw [nearestQuotient, hbit]
  simp [scaleDown, scaleUp]

theorem nearest_natCast {n : Nat} (hn : n ≠ 0) : nearest (n : Rat) = nearestQuotient n 1 := by
  have hpos : ¬ ((n : Rat).num < 0) := by simp
  rw [nearest, if_neg hpos]
  simp [hn]

/-- A whole number is rounded to a power of two that has more than 53 bits, or past it, exactly
from half a unit before that power on. -/
theorem pow_le_nearest_iff {n e : Nat} :
    ((2 ^ (e + 54) : Nat) : Rat) ≤ nearest (n : Rat) ↔ (2 ^ 54 - 1) * 2 ^ e ≤ n := by
  have hpow : 2 ^ (e + 54) = 2 ^ 54 * 2 ^ e := by rw [Nat.pow_add, Nat.mul_comm]
  have hunit : 0 < 2 ^ e := Nat.pow_pos Nat.two_pos
  rcases Nat.lt_or_ge n (2 ^ (e + 53)) with hsmall | hlarge
  · have hbound : nearest (n : Rat) ≤ 2 * n := nearest_le n.cast_nonneg
    have htwice : 2 * n < 2 ^ (e + 54) := by
      rw [Nat.pow_add] at hsmall ⊢
      omega
    have hbelow : nearest (n : Rat) < (2 ^ (e + 54) : Nat) :=
      hbound.trans_lt (by exact_mod_cast htwice)
    refine iff_of_false (not_le.2 hbelow) ?_
    rw [Nat.pow_add] at hsmall
    omega
  have hn : n ≠ 0 := by
    rintro rfl
    exact absurd hlarge (not_le.2 (Nat.pow_pos Nat.two_pos))
  have hlog : e + 53 ≤ n.log2 := (Nat.le_log2 hn).2 hlarge
  obtain ⟨k, hk⟩ : ∃ k, n.log2 = k + 52 := ⟨n.log2 - 52, by omega⟩
  rw [nearest_natCast hn, nearestQuotient_one hn hk, Nat.cast_le]
  rcases Nat.eq_or_lt_of_le hlog with hlast | hmore
  · obtain rfl : k = e + 1 := by omega
    have hlast : 2 ^ (e + 1) = 2 * 2 ^ e := Nat.pow_succ'
    have hsplit : 2 ^ 54 * 2 ^ e = 2 ^ 53 * 2 ^ (e + 1) := by omega
    rw [hpow, hsplit, Nat.mul_le_mul_right_iff (Nat.pow_pos Nat.two_pos),
      le_roundDiv_iff (Nat.pow_pos Nat.two_pos) (by decide) (by decide), hlast]
    generalize 2 ^ e = unit
    omega
  · have hbits : 2 ^ (k + 52) ≤ n := hk ▸ Nat.log2_self_le hn
    have hquotient : 2 ^ 52 ≤ n / 2 ^ k := by
      rw [Nat.le_div_iff_mul_le (Nat.pow_pos Nat.two_pos), ← Nat.pow_add, Nat.add_comm]
      exact hbits
    have hmono : 2 ^ (e + 54) ≤ 2 ^ (k + 52) := Nat.pow_le_pow_right Nat.two_pos (by omega)
    refine iff_of_true ?_ (by omega)
    calc 2 ^ (e + 54) ≤ 2 ^ 52 * 2 ^ k := by rw [← Nat.pow_add, Nat.add_comm 52]; exact hmono
      _ ≤ roundDiv n (2 ^ k) * 2 ^ k :=
        Nat.mul_le_mul_right _ (hquotient.trans (div_le_roundDiv n _))

/-! ### Past the greatest finite number -/

/-- The least whole number that is rounded past the greatest finite number. -/
def leastTooLarge : Nat := (2 ^ 54 - 1) * 2 ^ 970

theorem overflow_pos : 0 < overflow := by
  rw [overflow]
  generalize 1024 = k
  exact Nat.cast_pos.2 (Nat.pow_pos Nat.two_pos)

theorem overflow_le_nearest_iff {n : Nat} : overflow ≤ nearest (n : Rat) ↔ leastTooLarge ≤ n := by
  rw [overflow, leastTooLarge, show 1024 = 970 + 54 from rfl]
  generalize 970 = e
  exact pow_le_nearest_iff

theorem nearest_neg (x : Rat) : nearest (-x) = -nearest x := by
  rcases lt_trichotomy x.num 0 with h | h | h
  · simp [nearest, h, h.ne, h.not_gt]
  · have hx : x = 0 := Rat.num_eq_zero.1 h
    subst hx
    rfl
  · simp [nearest, h, h.ne', h.not_gt]

theorem isTooLarge_nearest_iff {n : Int} :
    isTooLarge (nearest n) = true ↔ leastTooLarge ≤ n.natAbs := by
  have hoverflow : 0 < overflow := overflow_pos
  rw [isTooLarge, Bool.or_eq_true, decide_eq_true_iff, decide_eq_true_iff]
  obtain ⟨m, rfl | rfl⟩ := n.eq_nat_or_neg
  · have hnonneg : 0 ≤ nearest (m : Rat) := nearest_nonneg m.cast_nonneg
    rw [Int.cast_natCast, Int.natAbs_natCast, overflow_le_nearest_iff]
    exact or_iff_left (by linarith)
  · have hnonneg : 0 ≤ nearest (m : Rat) := nearest_nonneg m.cast_nonneg
    rw [Int.cast_neg, Int.cast_natCast, Int.natAbs_neg, Int.natAbs_natCast, nearest_neg,
      neg_le_neg_iff, overflow_le_nearest_iff]
    exact or_iff_right (by linarith)

/-- The number closest to a whole number is infinite exactly from half a unit past the greatest
finite number on. -/
theorem ofRat_eq_infinity_iff {n : Int} :
    (∃ negative, Binary64.ofRat n = .infinity negative) ↔ leastTooLarge ≤ n.natAbs := by
  rw [← isTooLarge_nearest_iff, isTooLarge, Bool.or_eq_true, decide_eq_true_iff,
    decide_eq_true_iff, Binary64.ofRat]
  split
  next h => exact iff_of_true ⟨_, rfl⟩ (.inl h)
  next h =>
    split
    next h' => exact iff_of_true ⟨_, rfl⟩ (.inr h')
    next h' => exact iff_of_false (by simp) (not_or_intro h h')

end RuleReview.Decimal
