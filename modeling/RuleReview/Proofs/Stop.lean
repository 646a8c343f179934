import RuleReview.Command
import RuleReview.World

/-! Steps that may stop, and those that hand on a state besides. A sequence of two steps gives a
result, or stops, exactly when its steps say so. -/

namespace RuleReview.Stop

variable {ε α β : Type}

theorem ok_bind (a : α) (f : α → Except ε β) : Except.ok a >>= f = f a := rfl

theorem bind_eq_ok {x : Except ε α} {f : α → Except ε β} {b : β} :
    x >>= f = .ok b ↔ ∃ a, x = .ok a ∧ f a = .ok b := by
  cases x <;> simp [bind, Except.bind]

theorem bind_eq_error {x : Except ε α} {f : α → Except ε β} {e : ε} :
    x >>= f = .error e ↔ x = .error e ∨ ∃ a, x = .ok a ∧ f a = .error e := by
  cases x <;> simp [bind, Except.bind]

theorem map_eq_ok {x : Except ε α} {f : α → β} {b : β} :
    x.map f = .ok b ↔ ∃ a, x = .ok a ∧ f a = b := by
  cases x <;> simp [Except.map]

theorem eq_ok_of_toOption {x : Except ε α} {a : α} (h : x.toOption = some a) : x = .ok a := by
  cases x with
  | ok => exact congrArg Except.ok (Option.some.inj h)
  | error => cases h

/-- The result of steps of which the first of some causes, if there is any, ends them. -/
def barring : List ε → α → Except ε α
  | [], a => .ok a
  | e :: _, _ => .error e

theorem barring_eq_ok {es : List ε} {a b : α} : barring es a = .ok b ↔ es = [] ∧ a = b := by
  cases es <;> simp [barring]

theorem barring_eq_error {es : List ε} {a : α} {e : ε} :
    barring es a = .error e ↔ es.head? = some e := by
  cases es <;> simp [barring]

theorem barring_bind {es es' : List ε} {a : α} {b : β} {f : α → Except ε β}
    (h : f a = barring es' b) : barring es a >>= f = barring (es ++ es') b := by
  cases es with
  | nil => exact h
  | cons => rfl

theorem map_barring (es : List ε) (a : α) (f : α → β) :
    (barring es a).map f = barring es (f a) := by
  cases es <;> rfl

/-! ### Causes one after the other -/

/-- Whether a step stops for the first of some causes, and does not stop where there is none. -/
def StopsFor (x : Except ε α) (es : List ε) : Prop := ∀ e, x = .error e ↔ es.head? = some e

/-- The cause for which a step stops, if it does. -/
def causes : Except ε α → List ε
  | .ok _ => []
  | .error e => [e]

theorem mem_causes {x : Except ε α} {e : ε} : e ∈ causes x ↔ x = .error e := by
  cases x <;> simp [causes, eq_comm]

theorem stopsFor_ok (a : α) : StopsFor (.ok a : Except ε α) [] := by
  intro e
  simp

theorem stopsFor_error (e : ε) (es : List ε) : StopsFor (.error e : Except ε α) (e :: es) := by
  intro e'
  simp

theorem stopsFor_causes (x : Except ε α) : StopsFor x (causes x) := by
  cases x with
  | ok a => exact stopsFor_ok a
  | error e => exact stopsFor_error e []

theorem StopsFor.exists_ok {x : Except ε α} {es : List ε} (h : StopsFor x es) :
    (∃ a, x = .ok a) ↔ es = [] := by
  cases x with
  | ok a =>
    refine iff_of_true ⟨a, rfl⟩ (List.head?_eq_none_iff.1 (Option.eq_none_iff_forall_ne_some.2 ?_))
    intro e he
    cases (h e).2 he
  | error e =>
    refine iff_of_false (by simp) ?_
    rintro rfl
    cases (h e).1 rfl

/-- The causes of a second step come after those of the first one. -/
theorem StopsFor.bind {x : Except ε α} {f : α → Except ε β} {es es' : List ε}
    (hx : StopsFor x es) (hf : ∀ a, x = .ok a → StopsFor (f a) es') :
    StopsFor (x >>= f) (es ++ es') := by
  intro e
  cases x with
  | ok a =>
    obtain rfl := hx.exists_ok.1 ⟨a, rfl⟩
    exact hf a rfl e
  | error e' =>
    have hhead : es.head? = some e' := (hx e').1 rfl
    rw [List.head?_append, hhead]
    simp [Bind.bind, Except.bind]

/-- A result that is made of that of a step adds no cause. -/
theorem StopsFor.pure {x : Except ε α} {es : List ε} (hx : StopsFor x es) (f : α → β) :
    StopsFor (x >>= fun a => Pure.pure (f a)) es := by
  have h := hx.bind fun a _ => stopsFor_ok (f a)
  rw [List.append_nil] at h
  exact h

/-- Causes told in other words. -/
theorem StopsFor.mapError {ε' : Type} {x : Except ε α} {es : List ε} (hx : StopsFor x es)
    (f : ε → ε') : StopsFor (x.mapError f) (es.map f) := by
  intro e
  rw [List.head?_map, Option.map_eq_some_iff]
  cases x with
  | ok a =>
    obtain rfl := hx.exists_ok.1 ⟨a, rfl⟩
    change Except.ok a = .error e ↔ _
    simp
  | error e' =>
    have hhead : es.head? = some e' := (hx e').1 rfl
    change Except.error (f e') = .error e ↔ _
    simp [hhead]

/-- A check comes before what is done where it is passed. -/
theorem StopsFor.guard {p : Prop} [Decidable p] {e : ε} {f : Unit → Except ε β} {es : List ε}
    (hf : ¬ p → StopsFor (f ()) es) :
    StopsFor (if p then throw e >>= f else f ()) ((if p then [e] else []) ++ es) := by
  by_cases h : p
  · rw [if_pos h, if_pos h]
    exact stopsFor_error e es
  · rw [if_neg h, if_neg h]
    exact hf h

/-! ### Steps with a state -/

section State

variable {σ ε' : Type}

theorem pure_apply (a : α) (s : σ) : (pure a : ExceptT ε (StateM σ) α) s = (.ok a, s) := rfl

theorem bind_apply (m : ExceptT ε (StateM σ) α) (f : α → ExceptT ε (StateM σ) β) (s : σ) :
    (m >>= f) s = match m s with
      | (.ok a, s) => f a s
      | (.error e, s) => (.error e, s) := by
  change (ExceptT.bindCont f (m s).1) (m s).2 = _
  obtain ⟨r, s⟩ := m s
  cases r <;> rfl

/-- The result of two steps is that of the second one, from where the first one ended. -/
theorem fst_bind (m : ExceptT ε (StateM σ) α) (f : α → ExceptT ε (StateM σ) β) (s : σ) :
    ((m >>= f) s).1 = (m s).1 >>= fun a => (f a (m s).2).1 := by
  rw [bind_apply]
  obtain ⟨r, s⟩ := m s
  cases r <;> rfl

theorem map_apply (f : α → β) (m : ExceptT ε (StateM σ) α) (s : σ) :
    (m.map f) s = ((m s).1.map f, (m s).2) :=
  congrFun (ExceptT.run_map f m) s

theorem liftExcept_apply (x : Except ε α) (s : σ) :
    (liftExcept x : ExceptT ε (StateM σ) α) s = (x, s) := by
  cases x <;> rfl

theorem forIn_fst {f : α → ExceptT ε (StateM σ) (ForInStep PUnit)}
    (hf : ∀ x s, (f x s).1 = .ok (.yield PUnit.unit)) (xs : List α) (s : σ) :
    ((forIn xs PUnit.unit fun x _ => f x : ExceptT ε (StateM σ) PUnit) s).1 = .ok PUnit.unit := by
  induction xs generalizing s with
  | nil => rfl
  | cons x xs ih =>
    rw [List.forIn_cons, fst_bind, hf]
    exact ih _

end State

end RuleReview.Stop

namespace RuleReview.LogM

variable {ε ε' α : Type}

theorem attempt_apply (m : LogM ε α) (j : Journal) :
    (m.attempt : LogM ε' (Except ε α)) j = (.ok (m j).1, (m j).2) := rfl

theorem mapError_apply (f : ε → ε') (m : LogM ε α) (j : Journal) :
    m.mapError f j = ((m j).1.mapError f, (m j).2) := by
  rw [mapError]
  obtain ⟨r, j⟩ := m j
  cases r <;> rfl

end RuleReview.LogM

namespace RuleReview.Command

theorem run_apply (runner : Runner) (args : List String) (check : Bool) (j : Journal) :
    run runner args check j = (runner args check, j.command args) := by
  rw [run, Stop.bind_apply]
  dsimp only [modify, modifyGet, MonadStateOf.modifyGet]
  cases runner args check <;> rfl

end RuleReview.Command

namespace RuleReview.WorldM

theorem mapError_apply {τ ε ε' α : Type} (f : ε → ε') (m : WorldM τ ε α) (s : τ × Journal) :
    m.mapError f s = ((m s).1.mapError f, (m s).2) := by
  rw [mapError]
  obtain ⟨r, s⟩ := m s
  cases r <;> rfl

end RuleReview.WorldM
