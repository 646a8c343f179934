import Mathlib.Data.List.Dedup
import Mathlib.Data.List.Perm.Subperm
import RuleReview.Proofs.Data
import RuleReview.Proofs.Issue.Merge
import RuleReview.Report.Security

/-! Advice on what occurs most. A tally has every key once, in the order of first occurrences, and
each step of counting keeps it one. Sorted by numbers it stands by number and then by first
occurrence, and advice is given on the front of it. There is one such front, whatever has been
counted, and issues that are not about security have no part in it. -/

namespace RuleReview.Report

variable {keys : List String} {counts : List (String × Nat)}

/-! ### Tallies -/

/-- Keys with the numbers of their occurrences, in the order of first occurrences. -/
structure IsTally (keys : List String) (counts : List (String × Nat)) : Prop where
  lookup_eq : ∀ k, Data.lookup k counts = if k ∈ keys then some (keys.count k) else none
  order : (counts.map Prod.fst).Pairwise fun a b => keys.idxOf a < keys.idxOf b

theorem IsTally.mem_iff (h : IsTally keys counts) {k : String} :
    k ∈ counts.map Prod.fst ↔ k ∈ keys := by
  rw [← Data.lookup_isSome, h.lookup_eq]
  split <;> simp_all

theorem IsTally.nodup (h : IsTally keys counts) : (counts.map Prod.fst).Nodup :=
  h.order.imp fun {a b} hlt heq => by
    subst heq
    exact Nat.lt_irrefl _ hlt

theorem IsTally.count_eq (h : IsTally keys counts) {p : String × Nat} (hp : p ∈ counts) :
    p.2 = keys.count p.1 := by
  have hlookup := h.lookup_eq p.1
  rw [Data.lookup_of_mem h.nodup hp, if_pos (h.mem_iff.1 (List.mem_map_of_mem hp))] at hlookup
  exact Option.some.inj hlookup

/-- A key that occurs again has its place already, and a new one comes last. -/
theorem IsTally.concat (h : IsTally keys counts) (k : String) :
    IsTally (keys ++ [k]) (tally counts k) where
  lookup_eq k' := by
    rw [tally, Data.lookup_assign, h.lookup_eq, h.lookup_eq]
    by_cases hk : k = k'
    · subst hk
      by_cases hmem : k ∈ keys
      · simp [hmem]
      · simp [hmem, List.count_eq_zero_of_not_mem hmem]
    · simp [hk, Ne.symm hk]
  order := by
    have hbefore : (counts.map Prod.fst).Pairwise
        fun a b => (keys ++ [k]).idxOf a < (keys ++ [k]).idxOf b := by
      refine h.order.imp_of_mem fun {a b} ha hb hab => ?_
      rwa [List.idxOf_append_of_mem (h.mem_iff.1 ha), List.idxOf_append_of_mem (h.mem_iff.1 hb)]
    rw [tally, Data.keys_assign]
    split
    next => exact hbefore
    next hnew =>
      refine List.pairwise_append.2 ⟨hbefore, List.pairwise_singleton _ _, fun a ha b hb => ?_⟩
      obtain rfl := List.mem_singleton.1 hb
      have hb : b ∉ keys := fun hb => hnew (h.mem_iff.2 hb)
      rw [List.idxOf_append_of_mem (h.mem_iff.1 ha), List.idxOf_append_of_notMem hb]
      exact Nat.lt_add_right _ (List.idxOf_lt_length_of_mem (h.mem_iff.1 ha))

theorem IsTally.foldl (h : IsTally keys counts) (more : List String) :
    IsTally (keys ++ more) (more.foldl tally counts) := by
  induction more generalizing keys counts with
  | nil => rwa [List.append_nil]
  | cons k more ih =>
    rw [List.append_cons]
    exact ih (h.concat k)

abbrev subjects (is : List Issue) : List String := (securityIssues is).map subject

theorem isTally_nil : IsTally [] [] := ⟨fun _ => rfl, List.Pairwise.nil⟩

theorem isTally_subjectCounts (is : List Issue) : IsTally (subjects is) (subjectCounts is) :=
  isTally_nil.foldl (subjects is)

/-! ### The keys that occur most -/

/-- Whether a key occurs more often than another one, or as often and earlier. -/
def Outranks (keys : List String) (a b : String) : Prop :=
  keys.count b < keys.count a ∨ keys.count a = keys.count b ∧ keys.idxOf a < keys.idxOf b

theorem Outranks.asymm {a b : String} (h : Outranks keys a b) : ¬ Outranks keys b a := by
  simp only [Outranks] at *
  omega

/-- Advice on the keys that occur most, at most so many, with their numbers. -/
structure IsTop (most : Nat) (keys : List String) (top : List Recommendation) : Prop where
  length : top.length = min most keys.dedup.length
  nodup : (top.map (·.category)).Nodup
  count : ∀ r ∈ top, r.category ∈ keys ∧ r.count = keys.count r.category
  order : (top.map (·.category)).Pairwise (Outranks keys)
  rest : ∀ k ∈ keys, k ∉ top.map (·.category) → ∀ r ∈ top, Outranks keys r.category k

/-- The keys of a tally that is sorted by numbers. -/
def ranking (counts : List (String × Nat)) : List (String × Nat) :=
  counts.mergeSort fun a b => decide (b.2 ≤ a.2)

theorem IsTally.pairwise_ranking (h : IsTally keys counts) :
    ((ranking counts).map Prod.fst).Pairwise (Outranks keys) := by
  have htrans (a b c : String × Nat) (hab : decide (b.2 ≤ a.2)) (hbc : decide (c.2 ≤ b.2)) :
      decide (c.2 ≤ a.2) := by
    simp only [decide_eq_true_eq] at *
    omega
  have htotal (a b : String × Nat) : decide (b.2 ≤ a.2) || decide (a.2 ≤ b.2) := by
    simpa using Nat.le_total _ _
  have hsorted := List.pairwise_mergeSort htrans htotal counts
  have hties := pairwise_ties_mergeSort htrans htotal (List.pairwise_map.1 h.order)
  refine List.pairwise_map.2 ((hsorted.and hties).imp_of_mem fun {a b} ha hb hab => ?_)
  have ha := h.count_eq (List.mem_mergeSort.1 ha)
  have hb := h.count_eq (List.mem_mergeSort.1 hb)
  simp only [decide_eq_true_eq] at hab
  rw [Outranks]
  rcases Nat.lt_or_eq_of_le hab.1 with hlt | heq
  · exact .inl (by omega)
  · exact .inr ⟨by omega, hab.2 heq.ge⟩

theorem IsTally.perm_dedup (h : IsTally keys counts) :
    ((ranking counts).map Prod.fst).Perm keys.dedup := by
  refine ((List.mergeSort_perm counts _).map Prod.fst).trans ?_
  exact (List.perm_ext_iff_of_nodup h.nodup keys.nodup_dedup).2 fun k =>
    h.mem_iff.trans List.mem_dedup.symm

theorem IsTally.isTop (h : IsTally keys counts) (most : Nat) :
    IsTop most keys (((ranking counts).take most).map fun (category, count) =>
      { category, count }) := by
  have hcategories : ((((ranking counts).take most).map fun (category, count) =>
      ({ category, count } : Recommendation)).map (·.category)) =
        ((ranking counts).map Prod.fst).take most := by
    rw [List.map_map, ← List.map_take]
    rfl
  have hmem {p : String × Nat} (hp : p ∈ (ranking counts).take most) : p ∈ counts :=
    List.mem_mergeSort.1 (List.mem_of_mem_take hp)
  have hsplit := h.pairwise_ranking
  rw [← List.take_append_drop most ((ranking counts).map Prod.fst), List.pairwise_append] at hsplit
  refine ⟨?_, ?_, fun r hr => ?_, hcategories ▸ hsplit.1, fun k hk hnot r hr => ?_⟩
  · rw [List.length_map, List.length_take, ← h.perm_dedup.length_eq, List.length_map]
  · rw [hcategories]
    exact (h.perm_dedup.nodup_iff.2 keys.nodup_dedup).sublist (List.take_sublist _ _)
  · obtain ⟨p, hp, rfl⟩ := List.mem_map.1 hr
    exact ⟨h.mem_iff.1 (List.mem_map_of_mem (hmem hp)), h.count_eq (hmem hp)⟩
  · have hranked : k ∈ (ranking counts).map Prod.fst :=
      h.perm_dedup.mem_iff.2 (List.mem_dedup.2 hk)
    rw [← List.take_append_drop most ((ranking counts).map Prod.fst), List.mem_append] at hranked
    exact hsplit.2.2 r.category (hcategories ▸ List.mem_map_of_mem hr) k
      (hranked.resolve_left (hcategories ▸ hnot))

variable {most : Nat} {top top' : List Recommendation}

/-- A key that stands in one list of the most frequent keys stands in every other one. -/
theorem IsTop.categories_subset (h : IsTop most keys top) (h' : IsTop most keys top') :
    top.map (·.category) ⊆ top'.map (·.category) := by
  intro k hk
  by_contra hmissing
  -- as the lists are equally long, a key of the other list is missing here
  obtain ⟨k', hk', hmissing'⟩ : ∃ k' ∈ top'.map (·.category), k' ∉ top.map (·.category) := by
    by_contra hall
    push Not at hall
    have hlength : top.length = top'.length := h.length.trans h'.length.symm
    have hperm := (List.subperm_of_subset h'.nodup hall).perm_of_length_le (by simp [hlength])
    exact hmissing (hperm.mem_iff.2 hk)
  obtain ⟨r, hr, rfl⟩ := List.mem_map.1 hk
  obtain ⟨r', hr', rfl⟩ := List.mem_map.1 hk'
  exact (h.rest _ (h'.count r' hr').1 hmissing' r hr).asymm
    (h'.rest _ (h.count r hr).1 hmissing r' hr')

theorem IsTop.eq (h : IsTop most keys top) (h' : IsTop most keys top') : top = top' := by
  have hperm : (top.map (·.category)).Perm (top'.map (·.category)) :=
    (List.perm_ext_iff_of_nodup h.nodup h'.nodup).2 fun k =>
      ⟨fun hk => h.categories_subset h' hk, fun hk => h'.categories_subset h hk⟩
  have hcategories : top.map (·.category) = top'.map (·.category) :=
    hperm.eq_of_pairwise (fun _ _ _ _ hab hba => absurd hba hab.asymm) h.order h'.order
  have hcounts {t : List Recommendation} (ht : IsTop most keys t) :
      t = (t.map (·.category)).map fun c => ⟨c, keys.count c⟩ := by
    rw [List.map_map]
    refine (List.map_id t).symm.trans (List.map_congr_left fun r hr => ?_)
    rw [Function.comp_apply, ← (ht.count r hr).2]
    rfl
  rw [hcounts h, hcounts h', hcategories]

/-! ### The report -/

theorem isTop_recommendations (is : List Issue) :
    IsTop maxRecommendations (subjects is) (recommendations is) :=
  (isTally_subjectCounts is).isTop maxRecommendations

theorem securityIssues_securityIssues (is : List Issue) :
    securityIssues (securityIssues is) = securityIssues is := by
  simp [securityIssues, List.filter_filter]

/-- Whether data tell of a subject, of a number, and how pressing that is. -/
structure TellsOf (d : Data) (category : String) (n : Nat) : Prop where
  category : d.get? "category" = some (.text category)
  count : d.get? "count" = some (.integer n)
  priority : ∃ p, d.get? "priority" = some (.text p) ∧ (p = "HIGH" ↔ 3 < n) ∧
    (p = "MEDIUM" ↔ 1 < n ∧ n ≤ 3) ∧ (p = "LOW" ↔ n ≤ 1)

theorem tellsOf_toData (r : Recommendation) : TellsOf r.toData r.category r.count where
  category := rfl
  count := rfl
  priority := by
    refine ⟨r.priority, rfl, ?_⟩
    rw [Recommendation.priority]
    split
    next => simp; omega
    next =>
      split
      next => simp; omega
      next => simp; omega

/-- Advice is given on the three subjects that occur most among the issues about security, and on
no others: each with its number and how pressing that is, by number and then by first occurrence.
The report has this advice, and is that of the issues about security alone. -/
theorem eq_recommendations_iff_isTop (is : List Issue) :
    (∀ top, top = recommendations is ↔ IsTop 3 (subjects is) top) ∧
    (∀ r ∈ recommendations is, TellsOf r.toData r.category ((subjects is).count r.category)) ∧
    ∀ time, (Data.object (security is time)).get? "recommendations" =
        some (.list ((recommendations is).map (·.toData))) ∧
      security is time = security (securityIssues is) time := by
  refine ⟨fun top => ⟨?_, fun h => h.eq (isTop_recommendations is)⟩, fun r hr => ?_,
    fun time => ⟨?_, ?_⟩⟩
  · rintro rfl
    exact isTop_recommendations is
  · rw [← ((isTop_recommendations is).count r hr).2]
    exact tellsOf_toData r
  · have hsame : recommendations (securityIssues is) = recommendations is := by
      rw [recommendations, recommendations, subjectCounts, subjectCounts,
        securityIssues_securityIssues]
    rw [← hsame]
    rfl
  · rw [security, security, securityIssues_securityIssues]

end RuleReview.Report
