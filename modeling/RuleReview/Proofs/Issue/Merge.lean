import Mathlib.Algebra.Order.Ring.Rat
import Mathlib.Data.List.Nodup
import Mathlib.Data.Prod.Lex
import RuleReview.Analyzer

/-! Merging. Prioritizing keeps the order of issues of one standing, and what it makes of a list
depends on nothing else; deduplicating keeps the first issue of a key whatever has been seen
before. Proved: merged groups merge to what all the lists merge to at once, so the issues of an
analysis are its quality and its security issues merged. Four conditions tell the merged list of
some lists among all lists of issues: every key stands in it once, no key is lost, each issue is
the first one of its key, and the issues stand by their rank, then by their confidence and then by
their place among those that were given. -/

namespace RuleReview

/-- Sorting keeps the order of elements of which each may come before each other. -/
theorem filter_mergeSort {α : Type} {le : α → α → Bool} (trans : ∀ a b c, le a b → le b c → le a c)
    (total : ∀ a b, le a b || le b a) {p : α → Bool} (hp : ∀ a b, p a → p b → le a b)
    (xs : List α) : (xs.mergeSort le).filter p = xs.filter p := by
  have hsorted : (xs.filter p).Pairwise fun a b => le a b :=
    List.pairwise_of_forall_mem_list fun a ha b hb =>
      hp a b (List.mem_filter.1 ha).2 (List.mem_filter.1 hb).2
  have hsub : (xs.filter p).Sublist ((xs.mergeSort le).filter p) := by
    simpa [List.filter_filter] using
      (List.sublist_mergeSort trans total hsorted List.filter_sublist).filter p
  refine (hsub.eq_of_length ?_).symm
  exact ((List.mergeSort_perm xs le).filter p).length_eq.symm

/-- What holds of elements and later ones holds after sorting of those that could come in either
order. -/
theorem pairwise_ties_mergeSort {α : Type} {le : α → α → Bool}
    (trans : ∀ a b c, le a b → le b c → le a c) (total : ∀ a b, le a b || le b a)
    {R : α → α → Prop} {xs : List α} (h : xs.Pairwise R) :
    (xs.mergeSort le).Pairwise fun a b => le b a → R a b := by
  refine List.pairwise_iff_forall_sublist.2 fun {a b} hsub hba => ?_
  have hab : le a b :=
    List.pairwise_iff_forall_sublist.1 (List.pairwise_mergeSort trans total xs) hsub
  have haa : le a a := by simpa using total a a
  have hboth : [a, b].filter (fun c => le a c && le c a) = [a, b] := by simp [haa, hab, hba]
  have hsame := filter_mergeSort trans total (p := fun c => le a c && le c a) (fun c d hc hd => by
    rw [Bool.and_eq_true] at hc hd
    exact trans c a d hc.2 hd.1) xs
  have htied := hsub.filter fun c => le a c && le c a
  rw [hboth, hsame] at htied
  exact List.pairwise_iff_forall_sublist.1 h (htied.trans List.filter_sublist)

namespace Issue

/-! ### Order -/

/-- The place of an issue in the order, the greatest first: its rank, then its confidence. -/
def standing (i : Issue) : ℕ ×ₗ Rat := toLex (i.severity.rank, i.confidence)

theorem mayPrecede_iff (a b : Issue) : mayPrecede a b = true ↔ b.standing ≤ a.standing := by
  simp only [mayPrecede, standing, Prod.Lex.toLex_le_toLex, Bool.or_eq_true, Bool.and_eq_true,
    decide_eq_true_eq, beq_iff_eq]
  rw [@eq_comm _ a.severity.rank]

theorem mayPrecede_trans (a b c : Issue) (hab : mayPrecede a b) (hbc : mayPrecede b c) :
    mayPrecede a c := by
  rw [mayPrecede_iff] at *
  exact hbc.trans hab

theorem mayPrecede_total (a b : Issue) : mayPrecede a b || mayPrecede b a := by
  rw [Bool.or_eq_true, mayPrecede_iff, mayPrecede_iff]
  exact le_total _ _

def ofStanding (s : ℕ ×ₗ Rat) (is : List Issue) : List Issue := is.filter (·.standing = s)

/-- Two lists with the same issues of every standing in the same order. -/
def Alike (xs ys : List Issue) : Prop := ∀ s, ofStanding s xs = ofStanding s ys

theorem Alike.symm {xs ys : List Issue} (h : Alike xs ys) : Alike ys xs := fun s => (h s).symm

theorem Alike.trans {xs ys zs : List Issue} (h : Alike xs ys) (h' : Alike ys zs) :
    Alike xs zs := fun s => (h s).trans (h' s)

theorem Alike.append {xs ys xs' ys' : List Issue} (h : Alike xs ys) (h' : Alike xs' ys') :
    Alike (xs ++ xs') (ys ++ ys') := by
  intro s
  rw [ofStanding, ofStanding, List.filter_append, List.filter_append]
  exact congrArg₂ _ (h s) (h' s)

theorem Alike.filter {xs ys : List Issue} (h : Alike xs ys) (p : Issue → Bool) :
    Alike (xs.filter p) (ys.filter p) := by
  intro s
  simp only [ofStanding, List.filter_filter, Bool.and_comm _ (p _)]
  rw [← List.filter_filter, ← List.filter_filter]
  exact congrArg (List.filter p) (h s)

theorem Alike.mem {xs ys : List Issue} (h : Alike xs ys) {i : Issue} (hi : i ∈ xs) : i ∈ ys := by
  have hs : i ∈ ofStanding i.standing xs := by simp [ofStanding, hi]
  rw [h, ofStanding] at hs
  exact (List.mem_filter.1 hs).1

theorem pairwise_prioritize (is : List Issue) :
    (prioritize is).Pairwise fun a b => mayPrecede a b :=
  List.pairwise_mergeSort mayPrecede_trans mayPrecede_total is

theorem prioritize_perm (is : List Issue) : (prioritize is).Perm is := List.mergeSort_perm _ _

/-- Issues of one standing stay in their order. -/
theorem alike_prioritize (is : List Issue) : Alike (prioritize is) is := by
  intro s
  refine filter_mergeSort mayPrecede_trans mayPrecede_total (fun a b ha hb => ?_) is
  rw [mayPrecede_iff, of_decide_eq_true ha, of_decide_eq_true hb]

/-- A list in order is determined by its issues of each standing. -/
theorem eq_of_alike {xs ys : List Issue} (hxs : xs.Pairwise fun a b => mayPrecede a b)
    (hys : ys.Pairwise fun a b => mayPrecede a b) (h : Alike xs ys) : xs = ys := by
  induction xs generalizing ys with
  | nil =>
    refine (List.eq_nil_iff_forall_not_mem.2 fun i hi => ?_).symm
    exact List.not_mem_nil (h.symm.mem hi)
  | cons x xs ih =>
    obtain _ | ⟨y, ys⟩ := ys
    · exact absurd (h.mem List.mem_cons_self) List.not_mem_nil
    rw [List.pairwise_cons] at hxs hys
    -- either head is at most the other, since it occurs in the other list
    have hyx : y.standing ≤ x.standing := by
      rcases List.mem_cons.1 (h.symm.mem List.mem_cons_self) with rfl | hy
      · exact le_rfl
      · exact (mayPrecede_iff _ _).1 (hxs.1 y hy)
    have hxy : x.standing ≤ y.standing := by
      rcases List.mem_cons.1 (h.mem List.mem_cons_self) with rfl | hx
      · exact le_rfl
      · exact (mayPrecede_iff _ _).1 (hys.1 x hx)
    have hs : y.standing = x.standing := le_antisymm hyx hxy
    have hhead := h x.standing
    simp only [ofStanding, List.filter_cons, hs, decide_true, if_true, List.cons.injEq] at hhead
    obtain ⟨rfl, -⟩ := hhead
    refine congrArg (x :: ·) (ih hxs.2 hys.2 fun s => ?_)
    have hsame := h s
    simp only [ofStanding, List.filter_cons] at hsame
    split at hsame
    · exact (List.cons.inj hsame).2
    · exact hsame

theorem prioritize_eq_of_alike {xs ys : List Issue} (h : Alike xs ys) :
    prioritize xs = prioritize ys :=
  eq_of_alike (pairwise_prioritize xs) (pairwise_prioritize ys)
    ((alike_prioritize xs).trans (h.trans (alike_prioritize ys).symm))

/-! ### First issues of a key -/

theorem dropSeen_congr {seen seen' : List Key} (h : ∀ k, k ∈ seen ↔ k ∈ seen')
    (is : List Issue) : dropSeen seen is = dropSeen seen' is := by
  induction is generalizing seen seen' with
  | nil => rfl
  | cons i is ih =>
    have hnext : ∀ k, k ∈ i.key :: seen ↔ k ∈ i.key :: seen' := by simp [h]
    simp only [dropSeen, h]
    rw [ih h, ih hnext]

/-- Keys seen before take away the issues that have them and no others. -/
theorem dropSeen_eq_filter (seen : List Key) (is : List Issue) :
    dropSeen seen is = (deduplicate is).filter (·.key ∉ seen) := by
  suffices h : ∀ own, dropSeen (seen ++ own) is = (dropSeen own is).filter (·.key ∉ seen) by
    simpa [deduplicate] using h []
  intro own
  induction is generalizing own with
  | nil => rfl
  | cons i is ih =>
    have hnext : ∀ k, k ∈ i.key :: (seen ++ own) ↔ k ∈ seen ++ i.key :: own := by
      intro k; simp only [List.mem_cons, List.mem_append]; tauto
    by_cases hown : i.key ∈ own
    · simp [dropSeen, hown, ih]
    by_cases hseen : i.key ∈ seen
    · have hsame : ∀ k, k ∈ seen ++ own ↔ k ∈ seen ++ i.key :: own := by
        intro k
        simp only [List.mem_cons, List.mem_append]
        exact ⟨by tauto, by rintro (h | rfl | h) <;> tauto⟩
      simp [dropSeen, hown, hseen, dropSeen_congr hsame, ih]
    · simp [dropSeen, hown, hseen, dropSeen_congr hnext, ih]

theorem mem_key_dropSeen (seen : List Key) (is : List Issue) (k : Key) :
    k ∈ (dropSeen seen is).map key ↔ k ∈ is.map key ∧ k ∉ seen := by
  induction is generalizing seen with
  | nil => simp [dropSeen]
  | cons i is ih =>
    by_cases h : i.key ∈ seen
    · simp only [dropSeen, if_pos h, ih, List.map_cons, List.mem_cons]
      exact ⟨by tauto, by rintro ⟨rfl | hk, hs⟩ <;> tauto⟩
    · simp only [dropSeen, if_neg h, List.map_cons, List.mem_cons, ih]
      exact ⟨by rintro (rfl | hk) <;> tauto, by tauto⟩

theorem nodup_key_dropSeen (seen : List Key) (is : List Issue) :
    ((dropSeen seen is).map key).Nodup := by
  induction is generalizing seen with
  | nil => exact List.nodup_nil
  | cons i is ih =>
    by_cases h : i.key ∈ seen
    · simpa [dropSeen, h] using ih seen
    · simp only [dropSeen, if_neg h, List.map_cons, List.nodup_cons]
      refine ⟨fun hi => ?_, ih _⟩
      exact ((mem_key_dropSeen _ _ _).1 hi).2 List.mem_cons_self

/-- Where every key occurs once, only keys seen before take issues away. -/
theorem dropSeen_of_nodup (seen : List Key) {is : List Issue} (h : (is.map key).Nodup) :
    dropSeen seen is = is.filter (·.key ∉ seen) := by
  rw [dropSeen_eq_filter]
  congr 1
  suffices hs : ∀ own, (∀ k ∈ own, k ∉ is.map key) → dropSeen own is = is from
    hs [] (by simp)
  intro own hown
  induction is generalizing own with
  | nil => rfl
  | cons i is ih =>
    rw [List.map_cons, List.nodup_cons] at h
    have hi : i.key ∉ own := fun hi => hown _ hi List.mem_cons_self
    rw [dropSeen, if_neg hi, ih h.2]
    intro k hk
    rcases List.mem_cons.1 hk with rfl | hk
    · exact h.1
    · exact fun hm => hown k hk (List.mem_cons_of_mem _ hm)

theorem dropSeen_append (seen : List Key) (xs ys : List Issue) :
    dropSeen seen (xs ++ ys) = dropSeen seen xs ++ dropSeen (xs.map key ++ seen) ys := by
  induction xs generalizing seen with
  | nil => rfl
  | cons x xs ih =>
    by_cases h : x.key ∈ seen
    · have hsame : ∀ k, k ∈ xs.map key ++ seen ↔ k ∈ (x :: xs).map key ++ seen := by
        intro k
        simp only [List.map_cons, List.cons_append, List.mem_cons, List.mem_append]
        exact ⟨by tauto, by rintro (rfl | hk) <;> tauto⟩
      simp only [List.cons_append, dropSeen, if_pos h, ih, dropSeen_congr hsame]
    · have hsame : ∀ k, k ∈ xs.map key ++ x.key :: seen ↔ k ∈ (x :: xs).map key ++ seen := by
        intro k
        simp only [List.map_cons, List.cons_append, List.mem_cons, List.mem_append]
        tauto
      simp only [List.cons_append, dropSeen, if_neg h, ih, dropSeen_congr hsame]

/-! ### Stages -/

theorem dropSeen_sublist (seen : List Key) (is : List Issue) : (dropSeen seen is).Sublist is := by
  induction is generalizing seen with
  | nil => exact List.Sublist.slnil
  | cons i is ih =>
    rw [dropSeen]
    split
    next => exact (ih seen).cons i
    next => exact (ih (i.key :: seen)).cons_cons i

/-- A merged list has no other issues than its lists. -/
theorem mem_of_mem_merge {lists : List (List Issue)} {i : Issue} (h : i ∈ merge lists) :
    i ∈ lists.flatten :=
  (dropSeen_sublist [] _).subset ((prioritize_perm _).mem_iff.1 h)

theorem mem_key_merge (lists : List (List Issue)) (k : Key) :
    k ∈ (merge lists).map key ↔ k ∈ lists.flatten.map key := by
  rw [merge, ((prioritize_perm _).map key).mem_iff, deduplicate, mem_key_dropSeen]
  simp

theorem nodup_key_merge (lists : List (List Issue)) : ((merge lists).map key).Nodup :=
  ((prioritize_perm _).map key).nodup_iff.2 (nodup_key_dropSeen [] _)

/-- A merged group contributes what the group contributes, up to the order that
prioritizing gives. -/
theorem alike_dropSeen_merge (seen : List Key) (lists : List (List Issue)) :
    Alike (dropSeen seen (merge lists)) (dropSeen seen lists.flatten) := by
  rw [dropSeen_of_nodup seen (nodup_key_merge lists), dropSeen_eq_filter seen lists.flatten]
  exact (alike_prioritize _).filter _

theorem alike_dropSeen_groups (seen : List Key) (groups : List (List (List Issue))) :
    Alike (dropSeen seen (groups.map merge).flatten) (dropSeen seen groups.flatten.flatten) := by
  induction groups generalizing seen with
  | nil => exact fun _ => rfl
  | cons g groups ih =>
    have hkeys : ∀ k, k ∈ (merge g).map key ++ seen ↔ k ∈ g.flatten.map key ++ seen := by
      intro k; rw [List.mem_append, List.mem_append, mem_key_merge]
    rw [List.map_cons, List.flatten_cons, List.flatten_cons, List.flatten_append,
      dropSeen_append, dropSeen_append, dropSeen_congr hkeys]
    exact (alike_dropSeen_merge seen g).append (ih _)

/-- Merging merged groups is merging all their lists. -/
theorem merge_map_merge (groups : List (List (List Issue))) :
    merge (groups.map merge) = merge groups.flatten :=
  prioritize_eq_of_alike (alike_dropSeen_groups [] groups)

theorem merge_merge (lists : List (List Issue)) : merge [merge lists] = merge lists := by
  simpa using merge_map_merge [lists]

/-- The issues of an analysis are merged from four lists, of which the first three give the
issues about quality and the last one those about security. -/
theorem issues_analyze (a : Analyzer) (code : List Char) (hint path : Option String)
    (extra : List Issue) :
    (a.analyze code hint path extra).issues =
      merge [(a.analyze code hint path extra).quality,
        (a.analyze code hint path extra).security] := by
  simp only [Analyzer.analyze]
  exact (merge_map_merge [[_, _, _], [_]]).symm

/-- Merging in stages is merging at once, for any groups of lists and for the parts of an
analysis. -/
theorem merge_in_stages :
    (∀ groups : List (List (List Issue)), merge (groups.map merge) = merge groups.flatten) ∧
    (∀ lists : List (List Issue), merge [merge lists] = merge lists) ∧
    ∀ (a : Analyzer) (code : List Char) (hint path : Option String) (extra : List Issue),
      (a.analyze code hint path extra).issues =
        merge [(a.analyze code hint path extra).quality,
          (a.analyze code hint path extra).security] :=
  ⟨merge_map_merge, merge_merge, issues_analyze⟩

/-- A list that holds the first issue of every key of some issues, by standing and, where that is
the same, by place among them. -/
structure IsRanked (given ranked : List Issue) : Prop where
  nodup : (ranked.map key).Nodup
  keys : ∀ k, k ∈ ranked.map key ↔ k ∈ given.map key
  first : ∀ i ∈ ranked, given.find? (·.key = i.key) = some i
  order : ranked.Pairwise fun a b => b.severity.rank < a.severity.rank ∨
    a.severity.rank = b.severity.rank ∧ b.confidence ≤ a.confidence
  ties : ranked.Pairwise fun a b => a.severity.rank = b.severity.rank →
    a.confidence = b.confidence → given.idxOf a < given.idxOf b

/-! ### First issues -/

theorem key_notMem_of_mem_dropSeen {seen : List Key} {is : List Issue} {i : Issue}
    (h : i ∈ dropSeen seen is) : i.key ∉ seen :=
  ((mem_key_dropSeen seen is i.key).1 (List.mem_map_of_mem h)).2

theorem find?_of_mem_dropSeen {seen : List Key} {is : List Issue} {i : Issue}
    (h : i ∈ dropSeen seen is) : is.find? (·.key = i.key) = some i := by
  induction is generalizing seen with
  | nil => cases h
  | cons j is ih =>
    rw [dropSeen] at h
    split at h
    next hseen =>
      have hne : j.key ≠ i.key := fun hkey => key_notMem_of_mem_dropSeen h (hkey ▸ hseen)
      rw [List.find?_cons_of_neg (by simpa using hne), ih h]
    next =>
      rcases List.mem_cons.1 h with rfl | h
      · exact List.find?_cons_of_pos (by simp)
      · have hne : j.key ≠ i.key := fun hkey =>
          key_notMem_of_mem_dropSeen h (hkey ▸ List.mem_cons_self)
        rw [List.find?_cons_of_neg (by simpa using hne), ih h]

/-- First issues keep the order of the list that they are taken from. -/
theorem pairwise_idxOf_dropSeen (seen : List Key) (is : List Issue) :
    (dropSeen seen is).Pairwise fun a b => is.idxOf a < is.idxOf b := by
  induction is generalizing seen with
  | nil => exact List.Pairwise.nil
  | cons j is ih =>
    -- where `j` does not occur, every place is one further on
    have hshift {seen : List Key} (hj : j.key ∈ seen) :
        (dropSeen seen is).Pairwise fun a b => (j :: is).idxOf a < (j :: is).idxOf b := by
      refine (ih seen).imp_of_mem fun {a b} ha hb hab => ?_
      have hne {i : Issue} (hi : i ∈ dropSeen seen is) : j ≠ i := by
        rintro rfl
        exact key_notMem_of_mem_dropSeen hi hj
      rw [List.idxOf_cons_ne _ (hne ha), List.idxOf_cons_ne _ (hne hb)]
      exact Nat.succ_lt_succ hab
    rw [dropSeen]
    split
    next hseen => exact hshift hseen
    next =>
      refine List.pairwise_cons.2 ⟨fun b hb => ?_, hshift List.mem_cons_self⟩
      have hne : j ≠ b := by
        rintro rfl
        exact key_notMem_of_mem_dropSeen hb List.mem_cons_self
      rw [List.idxOf_cons_self, List.idxOf_cons_ne _ hne]
      exact Nat.succ_pos _

/-! ### Ranked lists -/

theorem isRanked_merge (lists : List (List Issue)) : IsRanked lists.flatten (merge lists) where
  nodup := nodup_key_merge lists
  keys := mem_key_merge lists
  first i hi := find?_of_mem_dropSeen ((prioritize_perm _).mem_iff.1 hi)
  order := by
    refine (pairwise_prioritize _).imp fun {a b} hab => ?_
    simpa [mayPrecede] using hab
  ties := by
    have htied := pairwise_ties_mergeSort mayPrecede_trans mayPrecede_total
      (pairwise_idxOf_dropSeen [] lists.flatten)
    refine htied.imp fun {a b} hab hrank hconfidence => hab ?_
    simp [mayPrecede, hrank, hconfidence]

variable {given ranked ranked' : List Issue}

theorem IsRanked.mem_iff (h : IsRanked given ranked) {i : Issue} :
    i ∈ ranked ↔ given.find? (·.key = i.key) = some i := by
  refine ⟨h.first i, fun hfirst => ?_⟩
  have hkey : i.key ∈ given.map key := List.mem_map_of_mem (List.mem_of_find?_eq_some hfirst)
  obtain ⟨j, hj, hjkey⟩ := List.mem_map.1 ((h.keys i.key).2 hkey)
  have hsame := h.first j hj
  rw [hjkey, hfirst] at hsame
  exact Option.some.inj hsame ▸ hj

/-- There is one ranked list. -/
theorem IsRanked.eq (h : IsRanked given ranked) (h' : IsRanked given ranked') :
    ranked = ranked' := by
  have hperm : ranked.Perm ranked' :=
    (List.perm_ext_iff_of_nodup (h.nodup.of_map key) (h'.nodup.of_map key)).2
      fun i => h.mem_iff.trans h'.mem_iff.symm
  refine hperm.eq_of_pairwise ?_ (h.order.and h.ties) (h'.order.and h'.ties)
  rintro a b - - ⟨hab, htie⟩ ⟨hba, htie'⟩
  have hrank : a.severity.rank = b.severity.rank := by omega
  have hconfidence : a.confidence = b.confidence :=
    le_antisymm (hba.resolve_left (by omega)).2 (hab.resolve_left (by omega)).2
  have hlt := htie hrank hconfidence
  have hlt' := htie' hrank.symm hconfidence.symm
  omega

/-- Merging gives the ranked list of the first issues of their keys, and nothing else is it. -/
theorem eq_merge_iff_isRanked (lists : List (List Issue)) (r : List Issue) :
    r = merge lists ↔ IsRanked lists.flatten r := by
  constructor
  · rintro rfl
    exact isRanked_merge lists
  · exact fun h => h.eq (isRanked_merge lists)

end Issue

end RuleReview
