import RuleReview.Proofs.Analyzer.Selection
import RuleReview.Proofs.Decimal.Integer
import RuleReview.Proofs.Issue.Merge

/-! Grave issues among merged ones. An issue about security is lost where one about quality says
the same of its line. It takes no grave one away where rules that say the same are equally
grave, and so it is with the sources that come with the library. -/

namespace RuleReview

/-! ### Messages about figures -/

/-- Unlike the messages of rules, those about figures have no colon. -/
theorem Metrics.colon_notMem_message {t : Config.Thresholds} {m : Metrics} {i : Issue}
    (h : i ∈ issues t m) : ':' ∉ i.message.toList := by
  have haround (before : String) (n : Int) (after : String) (hbefore : ':' ∉ before.toList)
      (hafter : ':' ∉ after.toList) : ':' ∉ (before ++ toString n ++ after).toList :=
    notMem_around rfl (by decide) hbefore hafter n
  have hplain : ∀ words ∈ plainWords, ':' ∉ words.1.toList ∧ ':' ∉ words.2.toList := by
    decide +kernel
  rcases message_of_mem_issues h with ⟨n, words, hwords, hmessage⟩ | hmessage | hmessage
  · rw [hmessage]
    exact haround _ n _ (hplain words hwords).1 (hplain words hwords).2
  · rw [hmessage, ← String.empty_append (s := toString _)]
    exact haround "" (percent (duplicatedRatio m.figures)) "% code duplication detected"
      (by decide) (by decide +kernel)
  · rw [hmessage]
    exact haround _ _ _ (by decide +kernel) (by decide +kernel)

/-! ### Two merged lists -/

namespace Issue

theorem merge_pair_perm {xs ys : List Issue} (hxs : (xs.map key).Nodup)
    (hys : (ys.map key).Nodup) :
    (merge [xs, ys]).Perm (xs ++ ys.filter (·.key ∉ xs.map key)) := by
  have hfirst : dropSeen [] xs = xs := by
    rw [dropSeen_of_nodup [] hxs]
    simp
  refine (prioritize_perm _).trans (List.Perm.of_eq ?_)
  rw [List.flatten_cons, List.flatten_singleton, deduplicate, dropSeen_append, hfirst,
    List.append_nil, dropSeen_of_nodup _ hys]

theorem mem_atOrAbove {threshold : Severity} {is : List Issue} {i : Issue} :
    i ∈ atOrAbove threshold is ↔ i ∈ is ∧ threshold.rank ≤ i.severity.rank := by
  simp [atOrAbove]

end Issue

namespace Analyzer

open Issue (atOrAbove mem_atOrAbove key)

variable {a : Analyzer} {code : List Char} {hint path : Option String} {extra : List Issue}
  {i : Issue} {threshold : Severity}

/-- The issues are those about quality and, of those about security, the ones that are not
preceded by one about quality with their line and message. -/
theorem issues_perm (a : Analyzer) (code : List Char) (hint path : Option String)
    (extra : List Issue) :
    (a.analyze code hint path extra).issues.Perm
      ((a.analyze code hint path extra).quality ++
        (a.analyze code hint path extra).security.filter
          (·.key ∉ (a.analyze code hint path extra).quality.map key)) := by
  have hperm := Issue.merge_pair_perm
    (Issue.nodup_key_merge [ruleIssues false (a.languageOf code hint path) code
      (a.applied code hint path), a.figureFindings code, extra])
    (Issue.nodup_key_merge [ruleIssues true (a.languageOf code hint path) code
      (a.applied code hint path)])
  have hsecurity : (a.analyze code hint path extra).security = _ := security_analyze a
  rwa [← quality_analyze a, ← hsecurity, ← Issue.issues_analyze] at hperm

/-- So it is with the grave issues. -/
theorem atOrAbove_issues_perm (a : Analyzer) (code : List Char) (hint path : Option String)
    (extra : List Issue) (threshold : Severity) :
    (atOrAbove threshold (a.analyze code hint path extra).issues).Perm
      (atOrAbove threshold (a.analyze code hint path extra).quality ++
        (atOrAbove threshold (a.analyze code hint path extra).security).filter
          (·.key ∉ (a.analyze code hint path extra).quality.map key)) := by
  refine ((issues_perm a code hint path extra).filter _).trans (List.Perm.of_eq ?_)
  rw [List.filter_append, List.filter_filter, atOrAbove, atOrAbove, List.filter_filter]
  simp only [Bool.and_comm]

theorem atOrAbove_issues_ne_nil
    (h : atOrAbove threshold (a.analyze code hint path extra).quality ≠ []) :
    atOrAbove threshold (a.analyze code hint path extra).issues ≠ [] := by
  intro hnil
  have hperm := atOrAbove_issues_perm a code hint path extra threshold
  rw [hnil] at hperm
  exact h (List.append_eq_nil_iff.1 hperm.nil_eq.symm).1

/-! ### Rules behind issues -/

theorem select_eq_some {language : String} {frameworks : List String} {c c' : Rule.Collection}
    (h : select code language frameworks c = some c') :
    c'.kind = c.kind ∧ c'.messages ⊆ c.messages := by
  rw [select_eq_guard, Option.guard_eq_some_iff] at h
  obtain ⟨rfl, -⟩ := h
  exact ⟨rfl, c.messages_filter_subset _⟩

theorem exists_collection_of_mem_ruleIssues {security : Bool}
    (h : i ∈ ruleIssues security (a.languageOf code hint path) code (a.applied code hint path)) :
    ∃ c ∈ a.collections, (c.kind == .security) = security ∧
      (i.severity, i.message) ∈ c.messages := by
  obtain ⟨c', hc', hi⟩ := List.mem_flatMap.1 h
  obtain ⟨hc', hkind⟩ := List.mem_filter.1 hc'
  obtain ⟨c, hc, hselect⟩ := List.mem_filterMap.1 hc'
  obtain ⟨hsame, hsub⟩ := select_eq_some hselect
  exact ⟨c, hc, hsame ▸ beq_iff_eq.1 hkind, hsub (Rule.Collection.mem_messages_of_mem_issues hi).1⟩

theorem exists_collection_of_mem_security (h : i ∈ (a.analyze code hint path).security) :
    ∃ c ∈ a.collections, c.kind = .security ∧ (i.severity, i.message) ∈ c.messages := by
  have hflat := Issue.mem_of_mem_merge (security_analyze a ▸ h)
  rw [List.flatten_singleton] at hflat
  obtain ⟨c, hc, hkind, hm⟩ := exists_collection_of_mem_ruleIssues hflat
  exact ⟨c, hc, beq_iff_eq.1 hkind, hm⟩

theorem exists_collection_of_mem_quality (h : i ∈ (a.analyze code hint path).quality)
    (hcolon : ':' ∈ i.message.toList) :
    ∃ c ∈ a.collections, c.kind ≠ .security ∧ (i.severity, i.message) ∈ c.messages := by
  have hflat := Issue.mem_of_mem_merge (quality_analyze a ▸ h)
  simp only [List.flatten_cons, List.flatten_nil, List.append_nil, List.mem_append] at hflat
  rcases hflat with hrule | hfigure
  · obtain ⟨c, hc, hkind, hm⟩ := exists_collection_of_mem_ruleIssues hrule
    exact ⟨c, hc, by simpa using hkind, hm⟩
  · exact absurd hcolon (Metrics.colon_notMem_message hfigure)

/-- Where rules that say the same are equally grave, no grave issue is lost. -/
theorem exists_grave_of_concordant (hrules : Rule.Concordant a.collections)
    (hi : i ∈ atOrAbove threshold (a.analyze code hint path).security) :
    ∃ j ∈ atOrAbove threshold (a.analyze code hint path).issues,
      j.line = i.line ∧ j.message = i.message := by
  obtain ⟨hsecurity, hrank⟩ := mem_atOrAbove.1 hi
  by_cases hkey : i.key ∈ (a.analyze code hint path).quality.map key
  · obtain ⟨j, hj, hsame⟩ := List.mem_map.1 hkey
    obtain ⟨hline, hmessage⟩ := Prod.mk.inj hsame
    obtain ⟨s, hs, hkind, hm⟩ := exists_collection_of_mem_security hsecurity
    have hcolon : ':' ∈ j.message.toList :=
      hmessage ▸ Rule.Collection.colon_mem_of_mem_messages hm
    obtain ⟨q, hq, hkind', hm'⟩ := exists_collection_of_mem_quality hj hcolon
    have hle := hrules q hq hkind' s hs hkind _ hm' _ hm hmessage
    have hgrave : j ∈ atOrAbove threshold (a.analyze code hint path).quality :=
      mem_atOrAbove.2 ⟨hj, hrank.trans hle⟩
    exact ⟨j, (atOrAbove_issues_perm a code hint path [] threshold).mem_iff.2
      (List.mem_append_left _ hgrave), hline, hmessage⟩
  · have hkept : i ∈ (atOrAbove threshold (a.analyze code hint path).security).filter
        (·.key ∉ (a.analyze code hint path).quality.map key) :=
      List.mem_filter.2 ⟨hi, decide_eq_true hkey⟩
    exact ⟨i, (atOrAbove_issues_perm a code hint path [] threshold).mem_iff.2
      (List.mem_append_right _ hkept), rfl, rfl⟩

/-- Where rules that say the same are equally grave, merged issues have a grave one exactly where
one of the two lists has. -/
theorem atOrAbove_issues_eq_nil (hrules : Rule.Concordant a.collections) :
    atOrAbove threshold (a.analyze code hint path).issues = [] ↔
      atOrAbove threshold (a.analyze code hint path).quality = [] ∧
        atOrAbove threshold (a.analyze code hint path).security = [] := by
  constructor
  · intro hnil
    refine ⟨Decidable.by_contra fun h => atOrAbove_issues_ne_nil h hnil, ?_⟩
    refine List.eq_nil_iff_forall_not_mem.2 fun i hi => ?_
    obtain ⟨j, hj, -⟩ := exists_grave_of_concordant hrules hi
    exact List.ne_nil_of_mem hj hnil
  · rintro ⟨hquality, hsecurity⟩
    have hperm := atOrAbove_issues_perm a code hint path [] threshold
    rw [hquality, hsecurity] at hperm
    exact hperm.eq_nil

/-- The rules of a configuration without further sources. -/
theorem concordant_build {w : Workspace} {c : Config} (hextra : c.rules.extra = [])
    (h : (build w c).outcome.1 = .ok a) : Rule.Concordant a.collections := by
  have hbuild : (build w c).outcome.1 =
      (Rule.Source.loadAll w (Rule.Source.ofConfig c)).outcome.1 >>= fun cs => .ok ⟨c, cs⟩ :=
    Stop.fst_bind _ _ _
  rw [hbuild, Stop.bind_eq_ok] at h
  obtain ⟨cs, hcs, heq⟩ := h
  cases heq
  have hload : (Rule.Source.loadAll w (Rule.Source.ofConfig c)).outcome.1 = _ :=
    Rule.Source.loadAll_fst w _ {}
  rw [hload, Stop.barring_eq_ok] at hcs
  obtain ⟨-, rfl⟩ := hcs
  refine Rule.Source.concordant_builtin w ?_
  rw [Rule.Source.ofConfig, hextra, List.map_nil, List.append_nil]
  exact List.filter_sublist.subset

end Analyzer

end RuleReview
