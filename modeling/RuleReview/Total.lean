/-! Sums of counts. -/

namespace RuleReview

def total : List Nat → Nat
  | [] => 0
  | n :: ns => n + total ns

theorem total_append (ms ns : List Nat) : total (ms ++ ns) = total ms + total ns := by
  induction ms with
  | nil => exact (Nat.zero_add _).symm
  | cons m ms ih => simp only [List.cons_append, total, ih, Nat.add_assoc]

theorem total_flatMap {α : Type} (f : α → List Nat) (xs : List α) :
    total (xs.flatMap f) = total (xs.map fun x => total (f x)) := by
  induction xs with
  | nil => rfl
  | cons x xs ih => rw [List.flatMap_cons, total_append, ih, List.map_cons, total]

/-- What counts nothing may be left out. -/
theorem total_map_filter {α : Type} (f : α → Nat) {p : α → Bool} (h : ∀ x, p x = false → f x = 0)
    (xs : List α) : total ((xs.filter p).map f) = total (xs.map f) := by
  induction xs with
  | nil => rfl
  | cons x xs ih =>
    rw [List.filter_cons]
    split
    next => rw [List.map_cons, List.map_cons, total, total, ih]
    next hx => rw [List.map_cons, total, h x (by simpa using hx), Nat.zero_add, ih]

theorem length_flatMap_eq_total {α β : Type} (f : α → List β) (xs : List α) :
    (xs.flatMap f).length = total (xs.map fun x => (f x).length) := by
  induction xs with
  | nil => rfl
  | cons x xs ih => rw [List.flatMap_cons, List.length_append, ih, List.map_cons, total]

end RuleReview
