import Mathlib.Data.List.Basic
import RuleReview.Proofs.Text.Words
import RuleReview.Text.Case

/-! Texts in small letters. The table of small forms is made of runs of characters that are moved
alike; no run moves what a run has moved, and none moves anything to a blank. Proved: a text in
small letters is the same in small letters, and where a text has no blanks at its ends, its small
letters have none. -/

namespace RuleReview.Text

/-! ### Runs -/

namespace Run

/-- The code point to which a run moves one that it moves. -/
def target (r : Run) (c : Nat) : Nat := ((c : Int) + r.shift).toNat

/-- The code points to which a run moves others. -/
def targets (r : Run) : List Nat :=
  (List.range ((r.last - r.first) / r.step + 1)).map fun k => r.target (r.first + r.step * k)

/-- Whether the code points between two ones lie all before or all after what a run moves to. -/
def misses (r : Run) (first last : Nat) : Bool :=
  Nat.blt last (r.target r.first) || Nat.blt (r.target r.last) first

/-- Whether a run moves nothing of what another one moves to. -/
def isApart (r s : Run) : Bool := r.misses s.first s.last || r.targets.all fun t => !s.moves t

variable {r s : Run} {c : Nat}

theorem moves_iff : r.moves c = true ↔ r.first ≤ c ∧ c ≤ r.last ∧ (c - r.first) % r.step = 0 := by
  simp [moves, and_assoc]

theorem target_mem_targets (h : r.moves c = true) : r.target c ∈ r.targets := by
  obtain ⟨hfirst, hlast, hstep⟩ := moves_iff.1 h
  refine List.mem_map.2 ⟨(c - r.first) / r.step, ?_, ?_⟩
  · rw [List.mem_range, Nat.lt_succ_iff]
    exact Nat.div_le_div_right (by omega)
  · rw [Nat.mul_div_cancel' (Nat.dvd_of_mod_eq_zero hstep), Nat.add_sub_cancel' hfirst]

theorem target_lt_or_lt {first last : Nat} (hmiss : r.misses first last = true)
    (h : r.moves c = true) : r.target c < first ∨ last < r.target c := by
  obtain ⟨hfirst, hlast, -⟩ := moves_iff.1 h
  simp only [misses, Bool.or_eq_true, Nat.blt_eq, target] at hmiss ⊢
  omega

theorem moves_target (hapart : r.isApart s = true) (h : r.moves c = true) :
    s.moves (r.target c) = false := by
  rw [isApart, Bool.or_eq_true] at hapart
  rcases hapart with hmiss | hall
  · have hout := target_lt_or_lt hmiss h
    rw [← Bool.not_eq_true, moves_iff]
    omega
  · simpa using List.all_eq_true.1 hall _ (target_mem_targets h)

end Run

namespace Runs

variable {runs : Runs} {c : Nat}

theorem apply_cases (runs : Runs) (c : Nat) :
    runs.apply c = c ∨ ∃ r ∈ runs, r.moves c = true ∧ runs.apply c = r.target c := by
  induction runs with
  | nil => exact .inl rfl
  | cons r rest ih =>
    rw [apply]
    split
    next => exact .inl rfl
    next =>
      split
      next hmoves => exact .inr ⟨r, List.mem_cons_self, hmoves, rfl⟩
      next =>
        rcases ih with hsame | ⟨s, hs, hmoves, hmoved⟩
        · exact .inl hsame
        · exact .inr ⟨s, List.mem_cons_of_mem r hs, hmoves, hmoved⟩

theorem apply_eq_self (h : ∀ r ∈ runs, r.moves c = false) : runs.apply c = c := by
  rcases apply_cases runs c with hsame | ⟨r, hr, hmoves, -⟩
  · exact hsame
  · simp [h r hr] at hmoves

/-- What is moved is not moved again, where no run moves what another one moves to. -/
theorem apply_apply (hapart : ∀ r ∈ runs, ∀ s ∈ runs, r.isApart s = true) (c : Nat) :
    runs.apply (runs.apply c) = runs.apply c := by
  rcases apply_cases runs c with hsame | ⟨r, hr, hmoves, hmoved⟩
  · rw [hsame, hsame]
  · rw [hmoved]
    exact apply_eq_self fun s hs => r.moves_target (hapart r hr s hs) hmoves

end Runs

/-! ### Characters -/

def blankRanges : Ranges := [(0x09, 0x0d), (0x1c, 0x20), (0x85, 0x85), (0xa0, 0xa0),
  (0x1680, 0x1680), (0x2000, 0x200a), (0x2028, 0x2029), (0x202f, 0x202f), (0x205f, 0x205f),
  (0x3000, 0x3000)]

theorem exists_blankRange {c : Char} (h : isBlank c = true) :
    ∃ range ∈ blankRanges, range.1 ≤ c.toNat ∧ c.toNat ≤ range.2 := by
  have hval : c.val.toNat = c.toNat := rfl
  simp only [isBlank] at h
  simp only [blankRanges, List.mem_cons, List.not_mem_nil, or_false, exists_eq_or_imp,
    exists_eq_left]
  split at h <;> simp [UInt32.le_iff_toNat_le, ← UInt32.toNat_inj, hval] at h <;> omega

/-- A run of small letters moves to no blank and to no capital. -/
theorem lower_misses : ∀ r ∈ Table.lower, r.misses 0x130 0x130 = true ∧
    ∀ range ∈ blankRanges, r.misses range.1 range.2 = true := by
  decide +kernel

theorem lower_isApart : (Table.lower.all fun r => Table.lower.all r.isApart) = true := by
  decide +kernel

theorem lower_apply_apply (c : Nat) :
    Table.lower.apply (Table.lower.apply c) = Table.lower.apply c :=
  Runs.apply_apply (fun r hr => List.all_eq_true.1 (List.all_eq_true.1 lower_isApart r hr)) c

theorem toNat_ofNat_or (n : Nat) : (Char.ofNat n).toNat = n ∨ Char.ofNat n = '\x00' := by
  by_cases h : n.isValidChar
  · have hchar : Char.ofNat n = Char.ofNatAux n h := dif_pos h
    exact .inl (hchar ▸ rfl)
  · exact .inr (dif_neg h)

/-- Only the capital with a dot has a small form of two characters. -/
theorem lowerChar_eq (c : Char) : lowerChar c =
    if c = 'İ' then ['i', '\u0307'] else [Char.ofNat (Table.lower.apply c.toNat)] := by
  have hascii : ∀ n < 128, (Char.ofNat n).toLower = Char.ofNat (Table.lower.apply n) := by
    decide +kernel
  rw [lowerChar]
  split
  next h =>
    have hc : c.toNat < 128 := h
    have hne : c ≠ 'İ' := by
      rintro rfl
      exact absurd hc (by decide)
    rw [if_neg hne, ← hascii _ hc, Char.ofNat_toNat]
  next =>
    have hlookup : Table.lowerLong.lookup c.toNat =
        if c = 'İ' then some [0x69, 0x307] else none := by
      have hne : (c.toNat == 0x130) = decide (c = 'İ') := by
        rw [Bool.eq_iff_iff, beq_iff_eq, decide_eq_true_iff]
        exact ⟨fun h => Char.toNat_inj.1 h, fun h => h ▸ rfl⟩
      rw [Table.lowerLong, List.lookup_cons, hne]
      by_cases hc : c = 'İ' <;> simp [hc]
    rw [fullForm, hlookup]
    by_cases hc : c = 'İ'
    · rw [if_pos hc, if_pos hc]
      rfl
    · rw [if_neg hc, if_neg hc]

def IsSmall (c : Char) : Prop := lowerChar c = [c]

instance (c : Char) : Decidable (IsSmall c) := inferInstanceAs (Decidable (_ = _))

theorem lower_apply_outside {first last : Nat}
    (h : ∀ r ∈ Table.lower, r.misses first last = true) (c : Nat) :
    Table.lower.apply c = c ∨ Table.lower.apply c < first ∨ last < Table.lower.apply c := by
  rcases Runs.apply_cases Table.lower c with hsame | ⟨r, hr, hmoves, hmoved⟩
  · exact .inl hsame
  · exact .inr (hmoved ▸ Run.target_lt_or_lt (h r hr) hmoves)

theorem isSmall_of_mem_lowerChar {c d : Char} (h : d ∈ lowerChar c) : IsSmall d := by
  rw [lowerChar_eq] at h
  split at h
  next =>
    rcases List.mem_pair.1 h with rfl | rfl <;> decide +kernel
  next hc =>
    obtain rfl := List.mem_singleton.1 h
    rcases toNat_ofNat_or (Table.lower.apply c.toNat) with hnat | hnul
    · have hne : Char.ofNat (Table.lower.apply c.toNat) ≠ 'İ' := by
        intro hd
        rw [hd] at hnat
        have houtside := lower_apply_outside (fun r hr => (lower_misses r hr).1) c.toNat
        have hcapital : 'İ'.toNat = 0x130 := rfl
        exact hc (Char.toNat_inj.1 (by omega))
      rw [IsSmall, lowerChar_eq, if_neg hne, hnat, lower_apply_apply]
    · rw [hnul]
      decide +kernel

/-- The small form of a character that is not blank has no blank. -/
theorem isBlank_of_mem_lowerChar {c d : Char} (hc : isBlank c = false) (h : d ∈ lowerChar c) :
    isBlank d = false := by
  rw [lowerChar_eq] at h
  split at h
  next =>
    rcases List.mem_pair.1 h with rfl | rfl <;> decide
  next =>
    obtain rfl := List.mem_singleton.1 h
    rcases toNat_ofNat_or (Table.lower.apply c.toNat) with hnat | hnul
    · rw [← Bool.not_eq_true]
      intro hblank
      obtain ⟨range, hrange, hfirst, hlast⟩ := exists_blankRange hblank
      rw [hnat] at hfirst hlast
      have houtside := lower_apply_outside (fun r hr => (lower_misses r hr).2 range hrange) c.toNat
      have hsame : Table.lower.apply c.toNat = c.toNat := by omega
      rw [hsame, Char.ofNat_toNat, hc] at hblank
      exact absurd hblank (by decide)
    · rw [hnul]
      decide

/-! ### Texts -/

variable {cs before after : List Char} {c d : Char}

theorem lowerFrom_of_ascii (h : ∀ c ∈ cs, c.val < 0x80) (before : List Char) :
    lowerFrom before cs = cs.map Char.toLower := by
  induction cs generalizing before with
  | nil => rfl
  | cons c cs ih =>
    obtain ⟨hc, hcs⟩ := List.forall_mem_cons.1 h
    have hsigma : c ≠ 'Σ' := by
      rintro rfl
      exact absurd hc (by decide)
    rw [lowerFrom, lowerBetween, if_neg hsigma, lowerChar, if_pos hc, ih hcs]
    rfl

theorem lower_eq_lowerFrom (cs : List Char) : lower cs = lowerFrom [] cs := by
  rw [lower]
  split
  next h => exact (lowerFrom_of_ascii (by simpa using h) []).symm
  next => rfl

theorem lowerBetween_cases (before : List Char) (c : Char) (after : List Char) :
    c = 'Σ' ∧ (lowerBetween before c after = ['ς'] ∨ lowerBetween before c after = ['σ']) ∨
      lowerBetween before c after = lowerChar c := by
  rw [lowerBetween]
  split
  next hc =>
    refine .inl ⟨hc, ?_⟩
    split
    · exact .inl rfl
    · exact .inr rfl
  next => exact .inr rfl

theorem isSmall_of_mem_lowerBetween (h : d ∈ lowerBetween before c after) : IsSmall d := by
  rcases lowerBetween_cases before c after with ⟨-, hform | hform⟩ | hform <;> rw [hform] at h
  · obtain rfl := List.mem_singleton.1 h
    decide +kernel
  · obtain rfl := List.mem_singleton.1 h
    decide +kernel
  · exact isSmall_of_mem_lowerChar h

theorem isBlank_of_mem_lowerBetween (hc : isBlank c = false) (h : d ∈ lowerBetween before c after) :
    isBlank d = false := by
  rcases lowerBetween_cases before c after with ⟨-, hform | hform⟩ | hform <;> rw [hform] at h
  · obtain rfl := List.mem_singleton.1 h
    decide
  · obtain rfl := List.mem_singleton.1 h
    decide
  · exact isBlank_of_mem_lowerChar hc h

theorem lowerBetween_ne_nil (before : List Char) (c : Char) (after : List Char) :
    lowerBetween before c after ≠ [] := by
  rcases lowerBetween_cases before c after with ⟨-, hform | hform⟩ | hform <;> rw [hform]
  · exact List.cons_ne_nil _ _
  · exact List.cons_ne_nil _ _
  · rw [lowerChar_eq]
    split <;> exact List.cons_ne_nil _ _

theorem isSmall_of_mem_lowerFrom (h : d ∈ lowerFrom before cs) : IsSmall d := by
  induction cs generalizing before with
  | nil => cases h
  | cons c cs ih =>
    rcases List.mem_append.1 h with h | h
    · exact isSmall_of_mem_lowerBetween h
    · exact ih h

/-- A text in small letters consists of characters that are their own small forms. -/
theorem isSmall_of_mem_lower (h : d ∈ lower cs) : IsSmall d := by
  rw [lower_eq_lowerFrom] at h
  exact isSmall_of_mem_lowerFrom h

theorem lowerFrom_eq_self (h : ∀ c ∈ cs, IsSmall c) (before : List Char) :
    lowerFrom before cs = cs := by
  induction cs generalizing before with
  | nil => rfl
  | cons c cs ih =>
    obtain ⟨hc, hcs⟩ := List.forall_mem_cons.1 h
    have hsigma : c ≠ 'Σ' := by
      rintro rfl
      exact absurd hc (by decide +kernel)
    rw [lowerFrom, lowerBetween, if_neg hsigma, hc, ih hcs]
    rfl

theorem lower_lower (cs : List Char) : lower (lower cs) = lower cs := by
  rw [lower_eq_lowerFrom (lower cs)]
  exact lowerFrom_eq_self (fun c hc => isSmall_of_mem_lower hc) []

theorem exists_lowerFrom_concat (before cs : List Char) (c : Char) : ∃ front,
    lowerFrom before (cs ++ [c]) = front ++ lowerBetween (cs.reverse ++ before) c [] := by
  induction cs generalizing before with
  | nil => exact ⟨[], by simp [lowerFrom]⟩
  | cons d cs ih =>
    obtain ⟨front, hfront⟩ := ih (d :: before)
    refine ⟨lowerBetween before d (cs ++ [c]) ++ front, ?_⟩
    rw [List.cons_append, lowerFrom, hfront]
    simp

/-- Small letters have blanks at their ends only where the text has. -/
theorem IsTrimmed.lower (h : IsTrimmed cs) : IsTrimmed (lower cs) := by
  obtain ⟨⟨c, hc, hfirst⟩, d, hd, hlast⟩ := h
  rw [lower_eq_lowerFrom]
  constructor
  · obtain ⟨tail, rfl⟩ := List.head?_eq_some_iff.1 hc
    obtain ⟨e, rest, hform⟩ := List.exists_cons_of_ne_nil (lowerBetween_ne_nil [] c tail)
    refine ⟨e, ?_, isBlank_of_mem_lowerBetween hfirst (hform ▸ List.mem_cons_self)⟩
    rw [lowerFrom, hform]
    rfl
  · obtain ⟨init, rfl⟩ := List.getLast?_eq_some_iff.1 hd
    obtain ⟨front, hfront⟩ := exists_lowerFrom_concat [] init d
    have hne := lowerBetween_ne_nil (init.reverse ++ []) d []
    refine ⟨_, ?_, isBlank_of_mem_lowerBetween hlast (List.getLast_mem hne)⟩
    rw [hfront, List.getLast?_append, List.getLast?_eq_some_getLast hne]
    rfl

end RuleReview.Text
