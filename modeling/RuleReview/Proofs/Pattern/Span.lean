import RuleReview.Pattern.Matcher

/-! Where matches lie. Every way to go on with a match goes on at a place of the line that is not
before the place where it started, whatever the pattern is: what stands ahead or behind is looked
at without going there, and a repetition or a reference takes characters of the line only. So the
spans of the matches lie on the line and end where they begin or after it. -/

namespace RuleReview.Pattern

/-- A line with as many small letters as characters. -/
def Line.IsAligned (t : Line) : Prop := t.small.size = t.size

theorem Line.isAligned_ofList (cs : List Char) : (Line.ofList cs).IsAligned := by
  simp [IsAligned, ofList, size]

theorem Line.size_ofList (cs : List Char) : (Line.ofList cs).size = cs.length := by
  simp [ofList, size]

theorem Line.at?_eq_none {t : Line} (ht : t.IsAligned) {i : Nat} (h : t.size ≤ i) (f : Folding) :
    t.at? f i = none := by
  have hchars : t.chars[i]? = none := Array.getElem?_eq_none h
  cases f with
  | exact => exact hchars
  | ascii => rw [at?, hchars]; rfl
  | full => exact Array.getElem?_eq_none (ht.symm ▸ h)

/-- The rest of a match finds an end at a place of the line, the given one or a later one. -/
def Reaches (t : Line) (pos : Nat) (k : Rest) (e : Nat) : Prop :=
  ∃ m p, pos ≤ p ∧ p ≤ t.size ∧ (k m p).finish = some e

/-- Whatever end a body finds from a place of the line, the rest of the match finds it. -/
def Proceeds (t : Line) (b : Body) : Prop :=
  ∀ m pos k e, pos ≤ t.size → (b m pos k).finish = some e → Reaches t pos k e

theorem Reaches.mono {t : Line} {pos pos' e : Nat} {k : Rest} (h : Reaches t pos' k e)
    (hpos : pos ≤ pos') : Reaches t pos k e := by
  obtain ⟨m, p, hp, hsize, hfinish⟩ := h
  exact ⟨m, p, Nat.le_trans hpos hp, hsize, hfinish⟩

theorem Outcome.finish_orElse {o : Outcome} {other : Marks → Outcome} {e : Nat}
    (h : (o.orElse other).finish = some e) :
    o.finish = some e ∨ (other o.marks).finish = some e := by
  rw [orElse] at h
  split at h
  · exact .inl h
  · exact .inr h

@[simp] theorem finish_failure (m : Marks) : (failure m).finish = none := rfl

variable {t : Line} {pos e : Nat} {k : Rest}

/-! ### Characters -/

theorem CharSet.accepts_lt (ht : t.IsAligned) {s : CharSet} {i : Nat} (h : s.accepts t i = true) :
    i < t.size := by
  refine Nat.lt_of_not_le fun hge => ?_
  rw [accepts, Line.at?_eq_none ht hge] at h
  cases h

theorem CharSet.run_le (ht : t.IsAligned) {s : CharSet} {i : Nat} (hi : i ≤ t.size)
    (bound : Nat) : i + s.run t i bound ≤ t.size := by
  induction bound generalizing i with
  | zero => exact hi
  | succ bound ih =>
    rw [CharSet.run]
    split
    next haccepts =>
      have hnext := ih (i := i + 1) (accepts_lt ht haccepts)
      omega
    next => exact hi

theorem sameStretch_le (ht : t.IsAligned) {f : Folding} {i n : Nat} (hpos : pos ≤ t.size)
    (h : sameStretch t f i pos n = true) : pos + n ≤ t.size := by
  induction n generalizing i pos with
  | zero => exact hpos
  | succ n ih =>
    simp only [sameStretch, Bool.and_eq_true, beq_iff_eq] at h
    obtain ⟨⟨hsome, hsame⟩, hrest⟩ := h
    have hlt : pos < t.size := by
      refine Nat.lt_of_not_le fun hge => ?_
      rw [hsame, Line.at?_eq_none ht hge] at hsome
      cases hsome
    have hnext := ih hlt hrest
    omega

/-! ### Repetitions -/

theorem reaches_tryLongest {inside : Bool} {n : Nat} {m : Marks} (hn : pos + n ≤ t.size)
    (h : (tryLongest inside k pos n m).finish = some e) : Reaches t pos k e := by
  induction n generalizing m with
  | zero =>
    rcases Outcome.finish_orElse h with h | h
    · exact ⟨m, pos, Nat.le_refl pos, hn, h⟩
    · simp at h
  | succ n ih =>
    rcases Outcome.finish_orElse h with h | h
    · exact ⟨m, pos + (n + 1), Nat.le_add_right _ _, hn, h⟩
    · exact ih (by omega) h

theorem reaches_tryShortest {inside : Bool} {n : Nat} {m : Marks} (hn : pos + n ≤ t.size)
    (h : (tryShortest inside k pos n m).finish = some e) : Reaches t pos k e := by
  induction n generalizing pos m with
  | zero =>
    rcases Outcome.finish_orElse h with h | h
    · exact ⟨m, pos, Nat.le_refl pos, hn, h⟩
    · simp at h
  | succ n ih =>
    rcases Outcome.finish_orElse h with h | h
    · exact ⟨m, pos, Nat.le_refl pos, by omega, h⟩
    · have hnext : pos + 1 + n ≤ t.size := by omega
      exact (ih hnext h).mono (by omega)

theorem proceeds_repeatSet (ht : t.IsAligned) (s : CharSet) (greed : Greed) (least : Nat)
    (most : Option Nat) (inside : Bool) :
    Proceeds t fun m pos k => repeatSet t s greed least most inside k m pos := by
  intro m pos k e hpos h
  simp only [repeatSet] at h
  generalize hn : s.run t pos _ = n at h
  have hrun : pos + n ≤ t.size := hn ▸ CharSet.run_le ht hpos _
  split at h
  · simp at h
  · next hleast =>
    cases greed with
    | greedy => exact (reaches_tryLongest (by omega) h).mono (by omega)
    | lazy => exact (reaches_tryShortest (by omega) h).mono (by omega)
    | possessive => exact ⟨m, _, Nat.le_add_right _ _, hrun, h⟩

section Repeat

variable {body : Body} (hbody : Proceeds t body) (least : Nat) (most : Option Nat)

include hbody

theorem reaches_repeatGreedy {fuel count : Nat} {last : Option Nat} {m : Marks}
    (hpos : pos ≤ t.size)
    (h : (repeatGreedy body least most k fuel count last m pos).finish = some e) :
    Reaches t pos k e := by
  induction fuel generalizing count last m pos with
  | zero => simp [repeatGreedy] at h
  | succ fuel ih =>
    -- one more repetition, and then what comes of the place it leads to
    have hmore {last : Option Nat} (h : (body m pos
        (repeatGreedy body least most k fuel (count + 1) last)).finish = some e) :
        Reaches t pos k e := by
      obtain ⟨m', p, hp, hsize, hrest⟩ := hbody _ _ _ _ hpos h
      exact (ih hsize hrest).mono hp
    rw [repeatGreedy] at h
    split at h
    · exact hmore h
    · split at h
      · rcases Outcome.finish_orElse h with h | h
        · exact hmore h
        · exact ⟨_, pos, Nat.le_refl pos, hpos, h⟩
      · exact ⟨m, pos, Nat.le_refl pos, hpos, h⟩

theorem reaches_repeatLazy {inside : Bool} {fuel count : Nat} {last : Option Nat} {m : Marks}
    (hpos : pos ≤ t.size)
    (h : (repeatLazy body least most inside k fuel count last m pos).finish = some e) :
    Reaches t pos k e := by
  induction fuel generalizing count last m pos with
  | zero => simp [repeatLazy] at h
  | succ fuel ih =>
    have hmore {last : Option Nat} {m : Marks} (h : (body m pos
        (repeatLazy body least most inside k fuel (count + 1) last)).finish = some e) :
        Reaches t pos k e := by
      obtain ⟨m', p, hp, hsize, hrest⟩ := hbody _ _ _ _ hpos h
      exact (ih hsize hrest).mono hp
    rw [repeatLazy] at h
    split at h
    · exact hmore h
    · rcases Outcome.finish_orElse h with h | h
      · exact ⟨m, pos, Nat.le_refl pos, hpos, h⟩
      · dsimp only at h
        split at h
        · exact hmore h
        · simp at h

theorem reaches_repeatForGood {fuel count : Nat} {last : Option Nat} {m : Marks}
    (hpos : pos ≤ t.size)
    (h : (repeatForGood body least most k fuel count last m pos).finish = some e) :
    Reaches t pos k e := by
  induction fuel generalizing count last m pos with
  | zero => simp [repeatForGood] at h
  | succ fuel ih =>
    have hmore {m' : Marks} {next : Nat} {last : Option Nat}
        (hnext : body m pos success = ⟨m', some next⟩)
        (h : (repeatForGood body least most k fuel (count + 1) last m' next).finish = some e) :
        Reaches t pos k e := by
      obtain ⟨_, p, hp, hsize, hsuccess⟩ := hbody m pos success next hpos (by rw [hnext])
      obtain rfl : p = next := Option.some.inj hsuccess
      exact (ih hsize h).mono hp
    rw [repeatForGood] at h
    split at h
    · split at h
      next hnext => exact hmore hnext h
      next => simp at h
    · split at h
      · split at h
        next hnext => exact hmore hnext h
        next => exact ⟨_, pos, Nat.le_refl pos, hpos, h⟩
      · exact ⟨m, pos, Nat.le_refl pos, hpos, h⟩

theorem proceeds_repeatAny (greed : Greed) (inside : Bool) :
    Proceeds t fun m pos k => repeatAny t body greed least most inside k m pos := by
  intro m pos k e hpos h
  cases greed with
  | greedy => exact reaches_repeatGreedy hbody least most hpos h
  | lazy => exact reaches_repeatLazy hbody least most hpos h
  | possessive => exact reaches_repeatForGood hbody least most hpos h

end Repeat

/-! ### Patterns -/

/-- A pattern proceeds along the line. -/
theorem proceeds_run (ht : t.IsAligned) (a : Pattern) (inside : Bool) :
    Proceeds t (a.run t inside) := by
  induction a generalizing inside with
  | empty => exact fun m pos k e hpos h => ⟨m, pos, Nat.le_refl pos, hpos, h⟩
  | set s =>
    intro m pos k e hpos h
    rw [run] at h
    split at h
    next haccepts => exact ⟨m, pos + 1, by omega, CharSet.accepts_lt ht haccepts, h⟩
    next => simp at h
  | seq a b iha ihb =>
    intro m pos k e hpos h
    rw [run] at h
    obtain ⟨m', p, hp, hsize, hrest⟩ := iha inside m pos _ e hpos h
    exact (ihb inside m' p k e hsize hrest).mono hp
  | alt a b iha ihb =>
    intro m pos k e hpos h
    rw [run] at h
    rcases Outcome.finish_orElse h with h | h
    · exact iha inside m pos k e hpos h
    · rcases Outcome.finish_orElse h with h | h
      · exact ihb inside _ pos k e hpos h
      · simp at h
  | repeated greed least most a ih =>
    intro m pos k e hpos h
    rw [run] at h
    split at h
    next s _ => exact proceeds_repeatSet ht s greed least most inside m pos k e hpos h
    next => exact proceeds_repeatAny (ih _) least most greed inside m pos k e hpos h
  | group g a ih =>
    intro m pos k e hpos h
    rw [run] at h
    obtain ⟨m', p, hp, hsize, hrest⟩ := ih inside _ pos _ e hpos h
    exact ⟨_, p, hp, hsize, hrest⟩
  | reference g f =>
    intro m pos k e hpos h
    rw [run] at h
    split at h
    · split at h
      next hsame => exact ⟨m, _, Nat.le_add_right _ _, sameStretch_le ht hpos hsame, h⟩
      next => simp at h
    · simp at h
  | anchor a =>
    intro m pos k e hpos h
    rw [run] at h
    split at h
    next => exact ⟨m, pos, Nat.le_refl pos, hpos, h⟩
    next => simp at h
  | ahead negated a ih =>
    intro m pos k e hpos h
    cases negated <;> rw [run] at h <;> split at h
    · exact ⟨_, pos, Nat.le_refl pos, hpos, h⟩
    · simp at h
    · simp at h
    · exact ⟨_, pos, Nat.le_refl pos, hpos, h⟩
  | behind negated width a ih =>
    intro m pos k e hpos h
    cases negated <;> rw [run] at h <;> split at h
    · simp at h
    · split at h
      · exact ⟨_, pos, Nat.le_refl pos, hpos, h⟩
      · simp at h
    · exact ⟨_, pos, Nat.le_refl pos, hpos, h⟩
    · split at h
      · simp at h
      · exact ⟨_, pos, Nat.le_refl pos, hpos, h⟩
  | atomic a ih =>
    intro m pos k e hpos h
    rw [run] at h
    split at h
    next m' next hnext =>
      obtain ⟨_, p, hp, hsize, hsuccess⟩ := ih inside m pos success next hpos (by rw [hnext])
      obtain rfl : p = next := Option.some.inj hsuccess
      exact ⟨m', p, hp, hsize, h⟩
    next => simp at h
  | conditional g yes no ihyes ihno =>
    intro m pos k e hpos h
    rw [run] at h
    split at h
    · exact ihyes inside m pos k e hpos h
    · exact ihno inside m pos k e hpos h

theorem matchAt_bounds (ht : t.IsAligned) {a : Pattern} {move : Bool} (hpos : pos ≤ t.size)
    (h : a.matchAt t pos move = some e) : pos ≤ e ∧ e ≤ t.size := by
  obtain ⟨m, p, hp, hsize, hfinish⟩ := proceeds_run ht a false _ _ _ _ hpos h
  dsimp only at hfinish
  split at hfinish
  · simp at hfinish
  · obtain rfl : p = e := Option.some.inj hfinish
    exact ⟨hp, hsize⟩

theorem scan_bounds (ht : t.IsAligned) {a : Pattern} {least fuel : Nat} {move : Bool}
    {s : Nat × Nat} (h : s ∈ a.scan least t fuel pos move) :
    pos ≤ s.1 ∧ s.1 ≤ s.2 ∧ s.2 ≤ t.size := by
  induction fuel generalizing pos move with
  | zero => simp [scan] at h
  | succ fuel ih =>
    rw [scan] at h
    split at h
    · simp at h
    next hroom =>
      split at h
      next e hmatch =>
        obtain ⟨hstart, hsize⟩ := matchAt_bounds ht (by omega) hmatch
        rcases List.mem_cons.1 h with rfl | h
        · exact ⟨Nat.le_refl pos, hstart, hsize⟩
        · exact ⟨Nat.le_trans hstart (ih h).1, (ih h).2⟩
      next =>
        split at h
        · exact ⟨Nat.le_trans (Nat.le_succ pos) (ih h).1, (ih h).2⟩
        · simp at h

/-- A match lies on the line. -/
theorem span_bounds (a : Pattern) (cs : List Char) {s : Nat × Nat} (h : s ∈ a.spans (.ofList cs)) :
    s.1 ≤ s.2 ∧ s.2 ≤ cs.length := by
  have hbounds := scan_bounds (Line.isAligned_ofList cs) h
  rw [Line.size_ofList] at hbounds
  exact hbounds.2

end RuleReview.Pattern
