import Mathlib.Order.Defs.LinearOrder
import RuleReview.Rule
import RuleReview.Total

/-! Walks through categories. A way to a category tells its place among the top ones, then that
among the ones right below, and so on. Proved: a walk follows each way once, in the order of the
ways, so it meets a category before all below it and before the later ones beside it; and the
rules that are counted are those of the categories it meets. -/

namespace RuleReview

namespace Rule

/-! ### Lists of categories -/

theorem walkAll_eq_flatMap (cs : List Category) :
    Category.walkAll cs = cs.flatMap Category.walk := by
  induction cs with
  | nil => rfl
  | cons c cs ih => rw [Category.walkAll, ih, List.flatMap_cons]

theorem walkAll_append (cs ds : List Category) :
    Category.walkAll (cs ++ ds) = Category.walkAll cs ++ Category.walkAll ds := by
  simp only [walkAll_eq_flatMap, List.flatMap_append]

theorem walkAll_filter_subset (p : Category → Bool) (cs : List Category) :
    Category.walkAll (cs.filter p) ⊆ Category.walkAll cs := by
  rw [walkAll_eq_flatMap, walkAll_eq_flatMap]
  intro c hc
  obtain ⟨top, htop, hc⟩ := List.mem_flatMap.1 hc
  exact List.mem_flatMap.2 ⟨top, (List.mem_filter.1 htop).1, hc⟩

mutual

/-- The rules of a category are counted at any depth. -/
theorem ruleCount_eq (c : Category) : c.ruleCount = (c.walk.flatMap Category.rules).length := by
  cases c with
  | mk key title severity rules children cwe =>
    rw [Category.ruleCount, Category.walk, List.flatMap_cons, List.length_append,
      ruleCountAll_eq children, Category.rules]

theorem ruleCountAll_eq (cs : List Category) :
    Category.ruleCountAll cs = ((Category.walkAll cs).flatMap Category.rules).length := by
  cases cs with
  | nil => rfl
  | cons c cs =>
    rw [Category.ruleCountAll, Category.walkAll, List.flatMap_append, List.length_append,
      ruleCount_eq c, ruleCountAll_eq cs]

end

/-- Rules are counted as those of the categories that a walk meets. -/
theorem Collection.ruleCount_eq_total (c : Collection) :
    c.ruleCount = total (c.walk.map fun k => k.rules.length) := by
  rw [Collection.ruleCount, ruleCountAll_eq, length_flatMap_eq_total, Collection.walk]

namespace Category

/-! ### Ways -/

/-- The category that a way leads to: its numbers are places among the categories right below. -/
def follow : Category → List Nat → Option Category
  | c, [] => some c
  | c, i :: way => c.children[i]?.bind (follow · way)

/-- The category that a way from a list of categories leads to. -/
def followFrom (cs : List Category) : List Nat → Option Category
  | [] => none
  | i :: way => cs[i]?.bind (follow · way)

mutual

/-- The ways from a category to itself and to all below it. -/
def ways : Category → List (List Nat)
  | mk _ _ _ _ cs _ => [] :: waysFrom 0 cs

/-- The ways from a list of categories, the first of which is numbered `n`. -/
def waysFrom (n : Nat) : List Category → List (List Nat)
  | [] => []
  | c :: cs => (ways c).map (n :: ·) ++ waysFrom (n + 1) cs

end

theorem ways_mk (key title : String) (severity : Severity) (rules : List Rule) (cs : List Category)
    (cwe : List String) : ways (mk key title severity rules cs cwe) = [] :: waysFrom 0 cs := rfl

theorem waysFrom_cons (n : Nat) (c : Category) (cs : List Category) :
    waysFrom n (c :: cs) = (ways c).map (n :: ·) ++ waysFrom (n + 1) cs := rfl

theorem follow_cons (c : Category) (i : Nat) (way : List Nat) :
    follow c (i :: way) = c.children[i]?.bind (follow · way) := rfl

theorem mem_waysFrom {n : Nat} {cs : List Category} {way : List Nat} :
    way ∈ waysFrom n cs ↔ ∃ i rest c, way = (n + i) :: rest ∧ cs[i]? = some c ∧ rest ∈ ways c := by
  induction cs generalizing n with
  | nil => exact iff_of_false List.not_mem_nil nofun
  | cons c cs ih =>
    rw [waysFrom_cons, List.mem_append, List.mem_map, ih]
    constructor
    · rintro (⟨rest, hrest, rfl⟩ | ⟨i, rest, d, rfl, hd, hrest⟩)
      · exact ⟨0, rest, c, rfl, rfl, hrest⟩
      · exact ⟨i + 1, rest, d, by rw [Nat.add_right_comm, Nat.add_assoc], hd, hrest⟩
    · rintro ⟨_ | i, rest, d, rfl, hd, hrest⟩
      · exact .inl ⟨rest, Option.some.inj hd ▸ hrest, rfl⟩
      · exact .inr ⟨i, rest, d, by rw [Nat.add_right_comm, Nat.add_assoc], hd, hrest⟩

theorem cons_mem_waysFrom {i : Nat} {way : List Nat} {cs : List Category} :
    i :: way ∈ waysFrom 0 cs ↔ ∃ c, cs[i]? = some c ∧ way ∈ ways c := by
  rw [mem_waysFrom]
  constructor
  · rintro ⟨i, rest, c, heq, hc, hrest⟩
    rw [Nat.zero_add] at heq
    cases heq
    exact ⟨c, hc, hrest⟩
  · rintro ⟨c, hc, hway⟩
    exact ⟨i, way, c, by rw [Nat.zero_add], hc, hway⟩

theorem nil_mem_ways (c : Category) : [] ∈ ways c := by
  cases c
  rw [ways_mk]
  exact List.mem_cons_self

theorem mem_ways {c : Category} {way : List Nat} : way ∈ ways c ↔ (follow c way).isSome := by
  induction way generalizing c with
  | nil => exact iff_of_true (nil_mem_ways c) rfl
  | cons i way ih =>
    obtain ⟨key, title, severity, rules, cs, cwe⟩ := c
    rw [ways_mk, List.mem_cons, or_iff_right (List.cons_ne_nil i way), cons_mem_waysFrom,
      follow_cons, children]
    cases cs[i]? with
    | none => simp
    | some c => simp [ih]

theorem mem_waysFrom_zero {cs : List Category} {way : List Nat} :
    way ∈ waysFrom 0 cs ↔ (followFrom cs way).isSome := by
  cases way with
  | nil => simp [mem_waysFrom, followFrom]
  | cons i way =>
    rw [cons_mem_waysFrom, followFrom]
    cases cs[i]? with
    | none => simp
    | some c => simp [mem_ways]

mutual

theorem pairwise_ways (c : Category) : (ways c).Pairwise (· < ·) := by
  cases c with
  | mk key title severity rules cs cwe =>
    rw [ways_mk]
    refine List.pairwise_cons.2 ⟨fun way hway => ?_, pairwise_waysFrom 0 cs⟩
    obtain ⟨i, rest, c, rfl, -, -⟩ := mem_waysFrom.1 hway
    exact List.nil_lt_cons _ _

theorem pairwise_waysFrom (n : Nat) (cs : List Category) :
    (waysFrom n cs).Pairwise (· < ·) := by
  cases cs with
  | nil => exact .nil
  | cons c cs =>
    rw [waysFrom_cons, List.pairwise_append, List.pairwise_map]
    refine ⟨(pairwise_ways c).imp fun h => List.cons_lt_cons_iff.2 (.inr ⟨rfl, h⟩),
      pairwise_waysFrom (n + 1) cs, fun way hway way' hway' => ?_⟩
    obtain ⟨rest, -, rfl⟩ := List.mem_map.1 hway
    obtain ⟨i, rest', c', rfl, -, -⟩ := mem_waysFrom.1 hway'
    exact List.cons_lt_cons_iff.2 (.inl (by omega))

end

mutual

theorem map_follow_ways (c : Category) : (ways c).map (follow c) = c.walk.map some := by
  cases c with
  | mk key title severity rules cs cwe =>
    have hbelow := map_followFrom_waysFrom [] cs
    rw [List.nil_append, List.length_nil] at hbelow
    rw [ways_mk, walk, List.map_cons, List.map_cons, ← hbelow]
    refine congrArg _ (List.map_congr_left fun way hway => ?_)
    obtain ⟨i, rest, c, rfl, -, -⟩ := mem_waysFrom.1 hway
    rfl

/-- The ways from the later ones of some categories lead to these and to all below them. -/
theorem map_followFrom_waysFrom (before cs : List Category) :
    (waysFrom before.length cs).map (followFrom (before ++ cs)) = (walkAll cs).map some := by
  cases cs with
  | nil => rfl
  | cons c cs =>
    have hlater := map_followFrom_waysFrom (before ++ [c]) cs
    rw [List.length_append, List.length_singleton, List.append_assoc, List.singleton_append]
      at hlater
    rw [waysFrom_cons, walkAll, List.map_append, List.map_append, hlater, ← map_follow_ways c,
      List.map_map]
    refine congrArg (· ++ _) (List.map_congr_left fun way _ => ?_)
    simp [followFrom]

end

/-- The walk meets the category at the end of each way once, in the order of the ways. -/
theorem walkAll_eq_ways (cs : List Category) : ∃ ways : List (List Nat),
    ways.Pairwise (· < ·) ∧ (∀ way, way ∈ ways ↔ (followFrom cs way).isSome) ∧
      ways.map (followFrom cs) = (walkAll cs).map some :=
  ⟨waysFrom 0 cs, pairwise_waysFrom 0 cs, fun _ => mem_waysFrom_zero,
    map_followFrom_waysFrom [] cs⟩

end Category
end Rule
end RuleReview
