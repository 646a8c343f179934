import RuleReview.Data

/-! Looking up keys among members that were put there one after the other: the last value for
a key is the one that is found. Members that are put there so have each key once. -/

namespace RuleReview.Data

variable {α : Type}

theorem lookup_assign (key k : String) (value : α) (ms : List (String × α)) :
    lookup key (assign k value ms) = if k = key then some value else lookup key ms := by
  induction ms with
  | nil => rfl
  | cons m ms ih =>
    obtain ⟨k', v⟩ := m
    by_cases hk : k' = k
    · subst hk
      by_cases hkey : k' = key <;> simp [assign, lookup, hkey]
    · by_cases hkey : k' = key
      · subst hkey
        simp [assign, lookup, hk, Ne.symm hk]
      · simp [assign, lookup, hk, hkey, ih]

def valuesOf (key : String) (pairs : List (String × α)) : List α :=
  pairs.filterMap fun p => if p.1 = key then some p.2 else none

theorem lookup_assignAll (key : String) (pairs : List (String × α)) :
    lookup key (assignAll pairs) = (valuesOf key pairs).getLast? := by
  suffices h : ∀ acc, lookup key (pairs.foldl (fun acc p => assign p.1 p.2 acc) acc) =
      (valuesOf key pairs).getLast?.or (lookup key acc) by
    simpa [assignAll, lookup] using h []
  intro acc
  induction pairs generalizing acc with
  | nil => rfl
  | cons p pairs ih =>
    rw [List.foldl_cons, ih, lookup_assign, valuesOf, valuesOf]
    by_cases hkey : p.1 = key
    · simp [hkey, List.getLast?_cons, Option.or_some]
    · simp [hkey]

/-! ### Keys that stand once -/

/-- Data whose objects, at any depth, have each key once, as those have that are read. -/
inductive IsKeyed : Data → Prop
  | leaf {d : Data} : d.items? = none → d.members? = none → IsKeyed d
  | list {xs : List Data} : (∀ x ∈ xs, IsKeyed x) → IsKeyed (.list xs)
  | object {ms : List (String × Data)} : (ms.map Prod.fst).Nodup → (∀ m ∈ ms, IsKeyed m.2) →
      IsKeyed (.object ms)

theorem isKeyed_list {xs : List Data} : IsKeyed (.list xs) ↔ ∀ x ∈ xs, IsKeyed x := by
  refine ⟨fun h => ?_, .list⟩
  cases h with
  | leaf hitems => cases hitems
  | list h => exact h

theorem isKeyed_object {ms : List (String × Data)} :
    IsKeyed (.object ms) ↔ (ms.map Prod.fst).Nodup ∧ ∀ m ∈ ms, IsKeyed m.2 := by
  refine ⟨fun h => ?_, fun h => .object h.1 h.2⟩
  cases h with
  | leaf _ hmembers => cases hmembers
  | object hkeys h => exact ⟨hkeys, h⟩

theorem mem_of_lookup {key : String} {value : α} {ms : List (String × α)}
    (h : lookup key ms = some value) : (key, value) ∈ ms := by
  induction ms with
  | nil => cases h
  | cons m ms ih =>
    obtain ⟨k, v⟩ := m
    rw [lookup] at h
    split at h
    next hk =>
      cases h
      rw [hk]
      exact List.mem_cons_self
    next => exact List.mem_cons_of_mem _ (ih h)

theorem lookup_append (key : String) (ms ns : List (String × α)) :
    lookup key (ms ++ ns) = (lookup key ms).or (lookup key ns) := by
  induction ms with
  | nil => rfl
  | cons m ms ih =>
    obtain ⟨k, v⟩ := m
    rw [List.cons_append, lookup, lookup, ih]
    split
    next => rfl
    next => rfl

theorem lookup_eq_none {key : String} {ms : List (String × α)}
    (h : ∀ m ∈ ms, m.1 ≠ key) : lookup key ms = none := by
  rcases hlookup : lookup key ms with _ | v
  · rfl
  · exact absurd rfl (h _ (mem_of_lookup hlookup))

theorem lookup_isSome {key : String} {ms : List (String × α)} :
    (lookup key ms).isSome = true ↔ key ∈ ms.map Prod.fst := by
  induction ms with
  | nil => simp [lookup]
  | cons m ms ih =>
    obtain ⟨k, v⟩ := m
    rw [lookup, List.map_cons, List.mem_cons, ← ih]
    split
    next hk => simp [hk]
    next hk => simp [Ne.symm hk]

/-- A member whose key stands once is the one that is found. -/
theorem lookup_of_mem {m : String × α} {ms : List (String × α)} (h : (ms.map Prod.fst).Nodup)
    (hm : m ∈ ms) : lookup m.1 ms = some m.2 := by
  induction ms with
  | nil => cases hm
  | cons m' ms ih =>
    obtain ⟨hnew, h⟩ := List.nodup_cons.1 h
    rcases List.mem_cons.1 hm with rfl | hm
    · exact if_pos rfl
    · have hne : m'.1 ≠ m.1 := fun heq => hnew (heq ▸ List.mem_map_of_mem hm)
      exact (if_neg hne).trans (ih h hm)

/-- A value takes the place of an earlier one for its key, or its key comes last. -/
theorem keys_assign (key : String) (value : α) (ms : List (String × α)) :
    (assign key value ms).map Prod.fst =
      if key ∈ ms.map Prod.fst then ms.map Prod.fst else ms.map Prod.fst ++ [key] := by
  induction ms with
  | nil => rfl
  | cons m ms ih =>
    obtain ⟨k, v⟩ := m
    rw [assign]
    by_cases hk : k = key
    · simp [hk]
    · rw [if_neg hk, List.map_cons, ih, List.map_cons]
      by_cases hmem : key ∈ ms.map Prod.fst
      · rw [if_pos hmem, if_pos (List.mem_cons_of_mem _ hmem)]
      · rw [if_neg hmem, if_neg (by simp_all [Ne.symm hk]), List.cons_append]

theorem nodup_keys_assign {ms : List (String × α)} (h : (ms.map Prod.fst).Nodup) (key : String)
    (value : α) : ((assign key value ms).map Prod.fst).Nodup := by
  rw [keys_assign]
  split
  next => exact h
  next hnew =>
    refine List.nodup_append.2 ⟨h, List.pairwise_singleton _ key, ?_⟩
    rintro _ hmem _ hkey rfl
    exact hnew (List.mem_singleton.1 hkey ▸ hmem)

theorem mem_assign {key : String} {value : α} {ms : List (String × α)} {m : String × α}
    (h : m ∈ assign key value ms) : m = (key, value) ∨ m ∈ ms := by
  induction ms with
  | nil => exact .inl (List.mem_singleton.1 h)
  | cons m' ms ih =>
    obtain ⟨k, v⟩ := m'
    rw [assign] at h
    split at h
    next hk =>
      rcases List.mem_cons.1 h with rfl | h
      · exact .inl (by rw [hk])
      · exact .inr (List.mem_cons_of_mem _ h)
    next =>
      rcases List.mem_cons.1 h with rfl | h
      · exact .inr List.mem_cons_self
      · exact (ih h).imp_right (List.mem_cons_of_mem _)

theorem IsKeyed.assign {key : String} {value : Data} {ms : List (String × Data)}
    (hvalue : IsKeyed value) (h : IsKeyed (.object ms)) :
    IsKeyed (.object (assign key value ms)) := by
  obtain ⟨hkeys, hall⟩ := isKeyed_object.1 h
  refine .object (nodup_keys_assign hkeys key _) fun m hm => ?_
  rcases mem_assign hm with rfl | hm
  · exact hvalue
  · exact hall m hm

theorem IsKeyed.lookup {key : String} {value : Data} {ms : List (String × Data)}
    (h : IsKeyed (.object ms)) (hvalue : lookup key ms = some value) : IsKeyed value :=
  (isKeyed_object.1 h).2 _ (mem_of_lookup hvalue)

end RuleReview.Data
