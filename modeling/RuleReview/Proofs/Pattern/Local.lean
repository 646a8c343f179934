import RuleReview.Proofs.Pattern.Span

/-! What a pattern asks about the rest of a match. It asks at places of the line only, and at none
that is nearer than the least number of characters that it takes. So no match is shorter than that,
and a search need not look where less of the line is left. A repetition asks further on each time
that it is free to go on, so the fuel that it is given never runs out: more of it changes nothing. -/

namespace RuleReview.Pattern

variable {t : Line} {pos e : Nat} {k k' : Rest}

/-- Two ways to go on that decide alike from a place of the line on. -/
def AgreeFrom (t : Line) (pos : Nat) (k k' : Rest) : Prop :=
  ∀ m p, pos ≤ p → p ≤ t.size → k m p = k' m p

/-- A body that asks how to go on at places of the line only, and at none of the next `n`. -/
def AsksPast (t : Line) (n : Nat) (b : Body) : Prop :=
  ∀ m pos k k', pos ≤ t.size → AgreeFrom t (pos + n) k k' → b m pos k = b m pos k'

theorem AgreeFrom.mono (h : AgreeFrom t pos k k') {pos' : Nat} (hpos : pos ≤ pos') :
    AgreeFrom t pos' k k' := fun m p hp hsize => h m p (Nat.le_trans hpos hp) hsize

theorem AsksPast.mono {n n' : Nat} {b : Body} (h : AsksPast t n b) (hn : n' ≤ n) :
    AsksPast t n' b :=
  fun m pos k k' hpos hk => h m pos k k' hpos (hk.mono (Nat.add_le_add_left hn pos))

/-- What a body finds is found past as many characters as it takes at least. -/
theorem AsksPast.reaches {n : Nat} {b : Body} (h : AsksPast t n b) (hb : Proceeds t b) {m : Marks}
    (hpos : pos ≤ t.size) (hfinish : (b m pos k).finish = some e) : Reaches t (pos + n) k e := by
  -- the body finds the same end where the rest of the match fails at nearer places
  let k' : Rest := fun m p => if pos + n ≤ p then k m p else failure m
  have hagree : AgreeFrom t (pos + n) k k' := fun m p hp _ => (if_pos hp).symm
  rw [h m pos k k' hpos hagree] at hfinish
  obtain ⟨m', p, -, hsize, hrest⟩ := hb m pos k' e hpos hfinish
  simp only [k'] at hrest
  split at hrest
  next hp => exact ⟨m', p, hp, hsize, hrest⟩
  next => simp at hrest

/-! ### Repetitions of a set -/

theorem tryLongest_congr {inside : Bool} {n : Nat} (hn : pos + n ≤ t.size)
    (h : AgreeFrom t pos k k') (m : Marks) :
    tryLongest inside k pos n m = tryLongest inside k' pos n m := by
  induction n generalizing m with
  | zero => rw [tryLongest, tryLongest, h m pos (Nat.le_refl pos) hn]
  | succ n ih =>
    have hrest : (fun after => tryLongest inside k pos n (m.restore inside after)) =
        fun after => tryLongest inside k' pos n (m.restore inside after) :=
      funext fun after => ih (by omega) _
    rw [tryLongest, tryLongest, h m (pos + (n + 1)) (Nat.le_add_right _ _) hn, hrest]

theorem tryShortest_congr {inside : Bool} {n : Nat} (hn : pos + n ≤ t.size)
    (h : AgreeFrom t pos k k') (m : Marks) :
    tryShortest inside k pos n m = tryShortest inside k' pos n m := by
  induction n generalizing pos m with
  | zero => rw [tryShortest, tryShortest, h m pos (Nat.le_refl pos) hn]
  | succ n ih =>
    have hrest : (fun after => tryShortest inside k (pos + 1) n (m.restore inside after)) =
        fun after => tryShortest inside k' (pos + 1) n (m.restore inside after) :=
      funext fun after => ih (by omega) (h.mono (Nat.le_succ pos)) _
    rw [tryShortest, tryShortest, h m pos (Nat.le_refl pos) (by omega), hrest]

theorem asksPast_repeatSet (ht : t.IsAligned) (s : CharSet) (greed : Greed) (least : Nat)
    (most : Option Nat) (inside : Bool) :
    AsksPast t least fun m pos k => repeatSet t s greed least most inside k m pos := by
  intro m pos k k' hpos h
  simp only [repeatSet]
  generalize hn : s.run t pos _ = n
  have hrun : pos + n ≤ t.size := hn ▸ CharSet.run_le ht hpos _
  split
  next => rfl
  next hleast =>
    cases greed with
    | greedy => exact tryLongest_congr (by omega) h m
    | lazy => exact tryShortest_congr (by omega) h m
    | possessive => exact h m (pos + n) (by omega) hrun

/-! ### Repetitions of any body -/

section Repeat

variable {body : Body} {n : Nat} (hbody : AsksPast t n body) {least : Nat} {most : Option Nat}

/-- One repetition fewer is asked for past the characters of one. -/
theorem add_sub_mul_le {count p : Nat} (hcount : count < least) (hp : pos + n ≤ p) :
    pos + (least - count) * n ≤ p + (least - (count + 1)) * n := by
  obtain ⟨left, hleft⟩ : ∃ left, least - count = left + 1 := ⟨least - count - 1, by omega⟩
  have hnext : least - (count + 1) = left := by omega
  rw [hleft, hnext, Nat.succ_mul]
  omega

include hbody

theorem repeatGreedy_congr {fuel count : Nat} {last : Option Nat} (hpos : pos ≤ t.size)
    (h : AgreeFrom t (pos + (least - count) * n) k k') (m : Marks) :
    repeatGreedy body least most k fuel count last m pos =
      repeatGreedy body least most k' fuel count last m pos := by
  induction fuel generalizing count last m pos with
  | zero => rfl
  | succ fuel ih =>
    rw [repeatGreedy, repeatGreedy]
    split
    next hcount =>
      refine hbody m pos _ _ hpos fun m' p hp hsize => ih hsize (h.mono ?_) m'
      exact add_sub_mul_le hcount hp
    next hcount =>
      have hnone : least - count = 0 := by omega
      rw [hnone, Nat.zero_mul] at h
      have hnext : least - (count + 1) = 0 := by omega
      have hmore : body m pos (repeatGreedy body least most k fuel (count + 1) (some pos)) =
          body m pos (repeatGreedy body least most k' fuel (count + 1) (some pos)) := by
        refine hbody m pos _ _ hpos fun m' p hp hsize => ih hsize (h.mono ?_) m'
        rw [hnext]
        omega
      have hhere : k m pos = k' m pos := h m pos (Nat.le_refl pos) hpos
      simp only [hmore, hhere]

theorem repeatLazy_congr {inside : Bool} {fuel count : Nat} {last : Option Nat}
    (hpos : pos ≤ t.size) (h : AgreeFrom t (pos + (least - count) * n) k k') (m : Marks) :
    repeatLazy body least most inside k fuel count last m pos =
      repeatLazy body least most inside k' fuel count last m pos := by
  induction fuel generalizing count last m pos with
  | zero => rfl
  | succ fuel ih =>
    rw [repeatLazy, repeatLazy]
    split
    next hcount =>
      refine hbody m pos _ _ hpos fun m' p hp hsize => ih hsize (h.mono ?_) m'
      exact add_sub_mul_le hcount hp
    next hcount =>
      have hnone : least - count = 0 := by omega
      rw [hnone, Nat.zero_mul] at h
      have hnext : least - (count + 1) = 0 := by omega
      have hmore (m : Marks) :
          body m pos (repeatLazy body least most inside k fuel (count + 1) (some pos)) =
            body m pos (repeatLazy body least most inside k' fuel (count + 1) (some pos)) := by
        refine hbody m pos _ _ hpos fun m' p hp hsize => ih hsize (h.mono ?_) m'
        rw [hnext]
        omega
      have hhere : k m pos = k' m pos := h m pos (Nat.le_refl pos) hpos
      simp only [hmore, hhere]

theorem repeatForGood_congr (hproceeds : Proceeds t body) {fuel count : Nat} {last : Option Nat}
    (hpos : pos ≤ t.size) (h : AgreeFrom t (pos + (least - count) * n) k k') (m : Marks) :
    repeatForGood body least most k fuel count last m pos =
      repeatForGood body least most k' fuel count last m pos := by
  induction fuel generalizing count last m pos with
  | zero => rfl
  | succ fuel ih =>
    -- where a repetition ends, as many characters on as it takes at least
    have hend {m' : Marks} {next : Nat} (hnext : body m pos success = ⟨m', some next⟩) :
        pos + n ≤ next ∧ next ≤ t.size := by
      obtain ⟨_, p, hp, hsize, hsuccess⟩ :=
        hbody.reaches hproceeds (m := m) (k := success) (e := next) hpos (by rw [hnext])
      obtain rfl : p = next := Option.some.inj hsuccess
      exact ⟨hp, hsize⟩
    rw [repeatForGood, repeatForGood]
    split
    next hcount =>
      split
      next hnext => exact ih (hend hnext).2 (h.mono (add_sub_mul_le hcount (hend hnext).1)) _
      next => rfl
    next hcount =>
      have hnone : least - count = 0 := by omega
      rw [hnone, Nat.zero_mul] at h
      have hnone' : least - (count + 1) = 0 := by omega
      split
      next =>
        split
        next hnext =>
          refine ih (hend hnext).2 (h.mono ?_) _
          have hle := (hend hnext).1
          rw [hnone']
          omega
        next => exact h _ pos (Nat.le_refl pos) hpos
      next => exact h m pos (Nat.le_refl pos) hpos

theorem asksPast_repeatAny (hproceeds : Proceeds t body) (greed : Greed) (inside : Bool) :
    AsksPast t (least * n) fun m pos k => repeatAny t body greed least most inside k m pos := by
  intro m pos k k' hpos h
  cases greed with
  | greedy => exact repeatGreedy_congr hbody hpos h m
  | lazy => exact repeatLazy_congr hbody hpos h m
  | possessive => exact repeatForGood_congr hbody hproceeds hpos h m

end Repeat

/-! ### Patterns -/

/-- A pattern asks past the least number of characters that it takes. -/
theorem asksPast_run (ht : t.IsAligned) (a : Pattern) (inside : Bool) :
    AsksPast t a.least (a.run t inside) := by
  induction a generalizing inside with
  | empty => exact fun m pos k k' hpos h => h m pos (Nat.le_refl pos) hpos
  | set s =>
    intro m pos k k' hpos h
    rw [run, run]
    split
    next haccepts => exact h m (pos + 1) (Nat.le_refl _) (CharSet.accepts_lt ht haccepts)
    next => rfl
  | seq a b iha ihb =>
    intro m pos k k' hpos h
    rw [run, run]
    refine iha inside m pos _ _ hpos fun m' p hp hsize => ihb inside m' p k k' hsize (h.mono ?_)
    rw [least]
    omega
  | alt a b iha ihb =>
    intro m pos k k' hpos h
    rw [least] at h
    have hfirst := iha inside m pos k k' hpos (h.mono (by omega))
    have hsecond (m : Marks) := ihb inside m pos k k' hpos (h.mono (by omega))
    simp only [run, hfirst, hsecond]
  | repeated greed least most a ih =>
    intro m pos k k' hpos h
    rw [run, run]
    split
    next s hset =>
      obtain rfl : a = .set s := by
        cases a <;> simp_all [asSet?]
      rw [Pattern.least, Pattern.least, Nat.mul_one] at h
      exact asksPast_repeatSet ht s greed least most inside m pos k k' hpos h
    next =>
      exact asksPast_repeatAny (ih _) (proceeds_run ht a _) greed inside m pos k k' hpos h
  | group g a ih =>
    intro m pos k k' hpos h
    rw [run, run]
    exact ih inside _ pos _ _ hpos fun m' p hp hsize => h _ p hp hsize
  | reference g f =>
    intro m pos k k' hpos h
    rw [run, run]
    split
    · split
      next hsame => exact h m _ (Nat.le_add_right _ _) (sameStretch_le ht hpos hsame)
      next => rfl
    · rfl
  | anchor a =>
    intro m pos k k' hpos h
    rw [run, run]
    split
    next => exact h m pos (Nat.le_refl pos) hpos
    next => rfl
  | ahead negated a ih =>
    intro m pos k k' hpos h
    cases negated <;> rw [run, run] <;> split
    · exact h _ pos (Nat.le_refl pos) hpos
    · rfl
    · rfl
    · exact h _ pos (Nat.le_refl pos) hpos
  | behind negated width a ih =>
    intro m pos k k' hpos h
    have hhere (m : Marks) : k m pos = k' m pos := h m pos (Nat.le_refl pos) hpos
    cases negated <;> simp only [run, hhere]
  | atomic a ih =>
    intro m pos k k' hpos h
    rw [run, run]
    split
    next m' next hnext =>
      obtain ⟨_, p, hp, hsize, hsuccess⟩ := (ih inside).reaches (proceeds_run ht a inside)
        (m := m) (k := success) (e := next) hpos (by rw [hnext])
      obtain rfl : p = next := Option.some.inj hsuccess
      exact h m' p hp hsize
    next => rfl
  | conditional g yes no ihyes ihno =>
    intro m pos k k' hpos h
    rw [least] at h
    rw [run, run]
    split
    next => exact ihyes inside m pos k k' hpos (h.mono (by omega))
    next => exact ihno inside m pos k k' hpos (h.mono (by omega))

/-- No match is shorter than the least number of characters of its pattern. -/
theorem add_least_le_of_matchAt (ht : t.IsAligned) {a : Pattern} {move : Bool} (hpos : pos ≤ t.size)
    (h : a.matchAt t pos move = some e) : pos + a.least ≤ e := by
  obtain ⟨m, p, hp, -, hfinish⟩ :=
    (asksPast_run ht a false).reaches (proceeds_run ht a false) hpos h
  dsimp only at hfinish
  split at hfinish
  · simp at hfinish
  · obtain rfl : p = e := Option.some.inj hfinish
    exact hp

/-! ### Fuel -/

section Fuel

variable {body : Body} (hbody : AsksPast t 0 body) {least : Nat} {most : Option Nat}

/-- The fuel of a repetition: one for each that has to be, one for each character on the line after
them, and two to end, or one where the last one began at the place that is reached. -/
def fuelFor (t : Line) (least count : Nat) (last : Option Nat) (pos : Nat) : Nat :=
  (least - count) + (t.size - pos) + if last = some pos then 1 else 2

theorem fuelFor_pos (count : Nat) (last : Option Nat) : 0 < fuelFor t least count last pos := by
  rw [fuelFor]
  split <;> omega

/-- A repetition that has to be takes one of the fuel. -/
theorem fuelFor_needed {count p fuel : Nat} {last : Option Nat} (hcount : count < least)
    (hp : pos ≤ p) (hsize : p ≤ t.size) (h : fuelFor t least count last pos ≤ fuel + 1) :
    fuelFor t least (count + 1) last p ≤ fuel := by
  simp only [fuelFor] at h ⊢
  rcases Nat.eq_or_lt_of_le hp with rfl | hlt
  · split at h <;> split <;> simp_all <;> omega
  · split at h <;> split <;> omega

/-- So does a free one, which moves or is the last one. -/
theorem fuelFor_free {count p fuel : Nat} {last : Option Nat} (hcount : ¬ count < least)
    (hlast : last ≠ some pos) (hp : pos ≤ p) (hsize : p ≤ t.size)
    (h : fuelFor t least count last pos ≤ fuel + 1) :
    fuelFor t least (count + 1) (some pos) p ≤ fuel := by
  rw [fuelFor, if_neg hlast] at h
  rw [fuelFor]
  split
  next => omega
  next hne =>
    have hlt : pos ≠ p := fun heq => hne (congrArg some heq)
    omega

theorem repeatForGood_fuel (hproceeds : Proceeds t body) {fuel count : Nat} {last : Option Nat}
    (extra : Nat) (hpos : pos ≤ t.size) (h : fuelFor t least count last pos ≤ fuel) (m : Marks) :
    repeatForGood body least most k (fuel + extra) count last m pos =
      repeatForGood body least most k fuel count last m pos := by
  induction fuel generalizing count last m pos with
  | zero => exact absurd (Nat.lt_of_lt_of_le (fuelFor_pos count last) h) (Nat.lt_irrefl 0)
  | succ fuel ih =>
    have hend {m' : Marks} {next : Nat} (hnext : body m pos success = ⟨m', some next⟩) :
        pos ≤ next ∧ next ≤ t.size := by
      obtain ⟨_, p, hp, hsize, hsuccess⟩ := hproceeds m pos success next hpos (by rw [hnext])
      obtain rfl : p = next := Option.some.inj hsuccess
      exact ⟨hp, hsize⟩
    rw [Nat.add_right_comm, repeatForGood, repeatForGood]
    split
    next hcount =>
      split
      next hnext =>
        obtain ⟨hp, hsize⟩ := hend hnext
        exact ih hsize (fuelFor_needed hcount hp hsize h) _
      next => rfl
    next hcount =>
      split
      next hfree =>
        have hlast : last ≠ some pos := by simpa using (Bool.and_eq_true_iff.1 hfree).2
        split
        next hnext =>
          obtain ⟨hp, hsize⟩ := hend hnext
          exact ih hsize (fuelFor_free hcount hlast hp hsize h) _
        next => rfl
      next => rfl

include hbody

theorem repeatGreedy_fuel {fuel count : Nat} {last : Option Nat} (extra : Nat)
    (hpos : pos ≤ t.size) (h : fuelFor t least count last pos ≤ fuel) (m : Marks) :
    repeatGreedy body least most k (fuel + extra) count last m pos =
      repeatGreedy body least most k fuel count last m pos := by
  induction fuel generalizing count last m pos with
  | zero => exact absurd (Nat.lt_of_lt_of_le (fuelFor_pos count last) h) (Nat.lt_irrefl 0)
  | succ fuel ih =>
    rw [Nat.add_right_comm, repeatGreedy, repeatGreedy]
    split
    next hcount =>
      refine hbody m pos _ _ hpos fun m' p hp hsize => ih hsize ?_ m'
      exact fuelFor_needed hcount hp hsize h
    next hcount =>
      split
      next hfree =>
        have hlast : last ≠ some pos := by simpa using (Bool.and_eq_true_iff.1 hfree).2
        have hmore : body m pos (repeatGreedy body least most k (fuel + extra) (count + 1) (some pos))
            = body m pos (repeatGreedy body least most k fuel (count + 1) (some pos)) := by
          refine hbody m pos _ _ hpos fun m' p hp hsize => ih hsize ?_ m'
          exact fuelFor_free hcount hlast hp hsize h
        simp only [hmore]
      next => rfl

theorem repeatLazy_fuel {inside : Bool} {fuel count : Nat} {last : Option Nat} (extra : Nat)
    (hpos : pos ≤ t.size) (h : fuelFor t least count last pos ≤ fuel) (m : Marks) :
    repeatLazy body least most inside k (fuel + extra) count last m pos =
      repeatLazy body least most inside k fuel count last m pos := by
  induction fuel generalizing count last m pos with
  | zero => exact absurd (Nat.lt_of_lt_of_le (fuelFor_pos count last) h) (Nat.lt_irrefl 0)
  | succ fuel ih =>
    rw [Nat.add_right_comm, repeatLazy, repeatLazy]
    split
    next hcount =>
      refine hbody m pos _ _ hpos fun m' p hp hsize => ih hsize ?_ m'
      exact fuelFor_needed hcount hp hsize h
    next hcount =>
      refine congrArg (Outcome.orElse (k m pos)) (funext fun after => ?_)
      dsimp only
      split
      next hfree =>
        have hlast : last ≠ some pos := by simpa using (Bool.and_eq_true_iff.1 hfree).2
        refine hbody _ pos _ _ hpos fun m' p hp hsize => ih hsize ?_ m'
        exact fuelFor_free hcount hlast hp hsize h
      next => rfl

end Fuel

def repeatFor (fuel : Nat) (body : Body) (greed : Greed) (least : Nat) (most : Option Nat)
    (inside : Bool) (k : Rest) : Rest :=
  match greed with
  | .greedy => repeatGreedy body least most k fuel 0 none
  | .lazy => repeatLazy body least most inside k fuel 0 none
  | .possessive => repeatForGood body least most k fuel 0 none

/-- A repetition of a pattern ends by itself: with more fuel it does the same. -/
theorem repeatFor_eq_repeatAny (ht : t.IsAligned) (a : Pattern) (inside inside' : Bool)
    (greed : Greed) (least : Nat) (most : Option Nat) (k : Rest) (m : Marks) (hpos : pos ≤ t.size)
    {fuel : Nat} (h : least + (t.size - pos) + 2 ≤ fuel) :
    repeatFor fuel (a.run t inside) greed least most inside' k m pos =
      repeatAny t (a.run t inside) greed least most inside' k m pos := by
  have hbody : AsksPast t 0 (a.run t inside) := (asksPast_run ht a inside).mono (Nat.zero_le _)
  obtain ⟨extra, rfl⟩ := Nat.exists_eq_add_of_le h
  have hfuel : fuelFor t least 0 none pos ≤ least + (t.size - pos) + 2 := Nat.le_refl _
  cases greed with
  | greedy => exact repeatGreedy_fuel hbody extra hpos hfuel m
  | lazy => exact repeatLazy_fuel hbody extra hpos hfuel m
  | possessive => exact repeatForGood_fuel (proceeds_run ht a inside) extra hpos hfuel m

end RuleReview.Pattern
