import Mathlib.Data.List.Flatten
import RuleReview.Proofs.Analyzer.Sound
import RuleReview.Proofs.Rule.Messages

/-! What an analysis consults. Whether a category at the top of a collection applies is told by
the collection, the text, its language and its frameworks alone. Proved: an analysis looks for the
rules of the categories that apply and for no others, in the order of the collections, and counts
the rules that it looks for. A framework more takes no category away. -/

namespace RuleReview

/-! ### Looking for parts -/

theorem Text.occurs_iff {part cs : List Char} : Text.occurs part cs = true ↔ part <:+: cs := by
  induction cs with
  | nil => rw [Text.occurs, List.isEmpty_iff, List.infix_nil]
  | cons c cs ih =>
    rw [Text.occurs, Bool.or_eq_true, List.isPrefixOf_iff_prefix, ih, List.infix_cons_iff]

theorem Text.startsWith_iff {s part : String} :
    Text.startsWith s part = true ↔ part.toList <+: s.toList := List.isPrefixOf_iff_prefix

theorem Language.usesDatabase_iff {code : List Char} :
    Language.usesDatabase code = true ↔
      ∃ mark ∈ Language.databaseMarks, mark.toList <:+: Text.lower code := by
  simp only [Language.usesDatabase, List.any_eq_true, Text.occurs_iff]

namespace Analyzer

variable {a : Analyzer} {code : List Char} {language : String} {frameworks : List String}
  {c : Rule.Collection} {cat : Rule.Category} {hint path : Option String} {extra : List Issue}
  {i : Issue}

/-! ### Categories that apply -/

/-- Whether a category at the top of a collection applies to a text of a language in which some
frameworks show. -/
inductive Applies (code : List Char) (language : String) (frameworks : List String)
    (c : Rule.Collection) (cat : Rule.Category) : Prop
  | framework (hc : c.aboutFrameworks = true) (hkey : cat.key ∈ frameworks)
  | database (hc : c.aboutFrameworks = true) (hkey : cat.key = databaseKey)
      (hcode : ∃ mark ∈ Language.databaseMarks, mark.toList <:+: Text.lower code)
  | language (hc : c.aboutFrameworks = false) (hlanguage : c.language = some language)
  | webFramework (hc : c.aboutFrameworks = false) (about : String)
      (hlanguage : c.language = some about)
      (hshows : ∃ f ∈ frameworks, (about ++ "-").toList <+: f.toList)
  | general (hc : c.aboutFrameworks = false) (hlanguage : c.language = none)

theorem applies_of_aboutFrameworks (hc : c.aboutFrameworks = true) :
    Applies code language frameworks c cat ↔ cat.key ∈ frameworkKeys code frameworks := by
  have hkeys : cat.key ∈ frameworkKeys code frameworks ↔
      cat.key ∈ frameworks ∨ cat.key = databaseKey ∧ Language.usesDatabase code = true := by
    rw [frameworkKeys, List.mem_append]
    split <;> simp_all
  rw [hkeys, Language.usesDatabase_iff]
  constructor
  · intro h
    cases h with
    | framework _ hkey => exact .inl hkey
    | database _ hkey hcode => exact .inr ⟨hkey, hcode⟩
    | language hc' => simp [hc] at hc'
    | webFramework hc' => simp [hc] at hc'
    | general hc' => simp [hc] at hc'
  · rintro (hkey | ⟨hkey, hcode⟩)
    · exact .framework hc hkey
    · exact .database hc hkey hcode

theorem applies_of_language (hc : c.aboutFrameworks = false) {about : String}
    (hlanguage : c.language = some about) :
    Applies code language frameworks c cat ↔ appliesToLanguage about language frameworks = true := by
  simp only [appliesToLanguage, Bool.or_eq_true, beq_iff_eq, List.any_eq_true, Text.startsWith_iff]
  constructor
  · intro h
    cases h with
    | framework hc' => simp [hc] at hc'
    | database hc' => simp [hc] at hc'
    | language _ hsame => exact .inl (Option.some.inj (hlanguage.symm.trans hsame))
    | webFramework _ about' hsame hshows =>
      obtain rfl := Option.some.inj (hlanguage.symm.trans hsame)
      exact .inr hshows
    | general _ hnone => simp [hlanguage] at hnone
  · rintro (rfl | hshows)
    · exact .language hc hlanguage
    · exact .webFramework hc about hlanguage hshows

theorem applies_iff : Applies code language frameworks c cat ↔
    (if c.aboutFrameworks then (frameworkKeys code frameworks).contains cat.key
      else c.language.all (appliesToLanguage · language frameworks)) = true := by
  by_cases hc : c.aboutFrameworks = true
  · rw [applies_of_aboutFrameworks hc, if_pos hc, List.contains_iff_mem]
  · have hc' : c.aboutFrameworks = false := by simpa using hc
    rw [if_neg hc]
    cases hlanguage : c.language with
    | none => exact ⟨fun _ => rfl, fun _ => .general hc' hlanguage⟩
    | some about => exact applies_of_language hc' hlanguage

instance : Decidable (Applies code language frameworks c cat) :=
  decidable_of_iff _ applies_iff.symm

/-- What applies goes on to apply where more frameworks show. -/
theorem Applies.mono {more : List String} (hmore : frameworks ⊆ more)
    (h : Applies code language frameworks c cat) : Applies code language more c cat := by
  cases h with
  | framework hc hkey => exact .framework hc (hmore hkey)
  | database hc hkey hcode => exact .database hc hkey hcode
  | language hc hlanguage => exact .language hc hlanguage
  | webFramework hc about hlanguage hshows =>
    obtain ⟨f, hf, hstart⟩ := hshows
    exact .webFramework hc about hlanguage ⟨f, hmore hf, hstart⟩
  | general hc hlanguage => exact .general hc hlanguage

/-- A collection with the categories that apply only. -/
def applicable (code : List Char) (language : String) (frameworks : List String)
    (c : Rule.Collection) : Rule.Collection :=
  { c with categories := c.categories.filter fun cat => Applies code language frameworks c cat }

theorem mem_categories_applicable : cat ∈ (applicable code language frameworks c).categories ↔
    cat ∈ c.categories ∧ Applies code language frameworks c cat := by
  simp [applicable]

theorem applicable_eq_self (h : ∀ cat ∈ c.categories, Applies code language frameworks c cat) :
    applicable code language frameworks c = c := by
  have hall : c.categories.filter (fun cat => Applies code language frameworks c cat) =
      c.categories := List.filter_eq_self.2 fun cat hcat => decide_eq_true (h cat hcat)
  rw [applicable, hall]

theorem isEmpty_applicable (h : ∀ cat ∈ c.categories, ¬ Applies code language frameworks c cat) :
    (applicable code language frameworks c).isEmpty = true :=
  List.isEmpty_iff.2 (List.filter_eq_nil_iff.2 fun cat hcat => by simpa using h cat hcat)

/-- A collection contributes its categories that apply, unless there is none. -/
theorem select_eq_guard (code : List Char) (language : String) (frameworks : List String)
    (c : Rule.Collection) : select code language frameworks c =
      Option.guard (fun c => !c.isEmpty) (applicable code language frameworks c) := by
  have hgiven (c : Rule.Collection) :
      (if c.isEmpty then none else some c) = Option.guard (fun c => !c.isEmpty) c := by
    cases h : c.isEmpty <;> simp [Option.guard, h]
  by_cases hc : c.aboutFrameworks = true
  · have hsame : applicable code language frameworks c =
        c.restrict (frameworkKeys code frameworks) := by
      refine congrArg (fun cats => { c with categories := cats })
        (List.filter_congr fun cat _ => ?_)
      rw [Bool.eq_iff_iff, decide_eq_true_eq, applies_of_aboutFrameworks hc,
        List.contains_iff_mem]
    rw [select, if_pos hc, hsame]
    exact hgiven _
  · have hc' : c.aboutFrameworks = false := by simpa using hc
    rw [select, if_neg hc]
    dsimp only
    cases hlanguage : c.language with
    | none =>
      rw [applicable_eq_self fun _ _ => .general hc' hlanguage]
      exact hgiven c
    | some about =>
      by_cases hshows : appliesToLanguage about language frameworks = true
      · rw [applicable_eq_self fun _ _ => (applies_of_language hc' hlanguage).2 hshows]
        simpa only [hshows, if_true] using hgiven c
      · have hempty : (applicable code language frameworks c).isEmpty = true :=
          isEmpty_applicable fun _ _ h => hshows ((applies_of_language hc' hlanguage).1 h)
        simp [hshows, Option.guard, hempty]

/-- The collections that apply are all collections in their order, each with the categories that
apply, but for those with none. -/
theorem collectionsFor_eq (a : Analyzer) (code : List Char) (language : String)
    (frameworks : List String) : a.collectionsFor code language frameworks =
      (a.collections.map (applicable code language frameworks)).filter fun c => !c.isEmpty := by
  have hselect : select code language frameworks =
      Option.guard (fun c => !c.isEmpty) ∘ applicable code language frameworks :=
    funext (select_eq_guard code language frameworks)
  rw [collectionsFor, hselect, ← List.filterMap_map, List.filterMap_eq_filter]

/-! ### Trees -/

/-- The categories at the top of collections, each with the name of its collection. -/
def trees (cs : List Rule.Collection) : List (String × Rule.Category) :=
  cs.flatMap fun c => c.categories.map (c.name, ·)

theorem trees_cons (c : Rule.Collection) (cs : List Rule.Collection) :
    trees (c :: cs) = c.categories.map (c.name, ·) ++ trees cs := rfl

/-- Collections without a category have no tree. -/
theorem trees_filter_isEmpty (cs : List Rule.Collection) :
    trees (cs.filter fun c => !c.isEmpty) = trees cs := by
  induction cs with
  | nil => rfl
  | cons c cs ih =>
    rw [List.filter_cons]
    split
    next => exact congrArg (_ ++ ·) ih
    next hempty =>
      have hnil : c.categories = [] := by simpa [Rule.Collection.isEmpty] using hempty
      rw [ih, trees_cons, hnil, List.map_nil, List.nil_append]

theorem trees_collectionsFor (a : Analyzer) (code : List Char) (language : String)
    (frameworks : List String) : trees (a.collectionsFor code language frameworks) =
      a.collections.flatMap fun c =>
        (c.categories.filter fun cat => Applies code language frameworks c cat).map (c.name, ·) := by
  rw [collectionsFor_eq, trees_filter_isEmpty, trees, List.flatMap_map]
  rfl

theorem mem_trees_collectionsFor {t : String × Rule.Category} :
    t ∈ trees (a.collectionsFor code language frameworks) ↔
      ∃ c ∈ a.collections, ∃ cat ∈ c.categories,
        Applies code language frameworks c cat ∧ t = (c.name, cat) := by
  rw [trees_collectionsFor]
  simp only [List.mem_flatMap, List.mem_map, List.mem_filter, decide_eq_true_eq]
  constructor
  · rintro ⟨c, hc, cat, ⟨hcat, happlies⟩, rfl⟩
    exact ⟨c, hc, cat, hcat, happlies, rfl⟩
  · rintro ⟨c, hc, cat, hcat, happlies, rfl⟩
    exact ⟨c, hc, cat, ⟨hcat, happlies⟩, rfl⟩

/-- More frameworks take no tree away and change the order of none. -/
theorem trees_sublist {more : List String} (hmore : frameworks ⊆ more) :
    (trees (a.collectionsFor code language frameworks)).Sublist
      (trees (a.collectionsFor code language more)) := by
  rw [trees_collectionsFor, trees_collectionsFor]
  refine List.Sublist.flatMap_right _ fun c _ => List.Sublist.map _ ?_
  refine List.monotone_filter_right _ fun cat h => ?_
  exact decide_eq_true ((of_decide_eq_true h).mono hmore)

/-! ### Rules -/

/-- The rules of a tree, at any depth. -/
def rulesOf (t : String × Rule.Category) : List Rule := t.2.walk.flatMap (·.rules)

theorem flatMap_rulesOf (c : Rule.Collection) :
    (c.categories.map (c.name, ·)).flatMap rulesOf = c.walk.flatMap (·.rules) := by
  rw [List.flatMap_map, Rule.Collection.walk, Rule.walkAll_eq_flatMap, List.flatMap_assoc]
  rfl

/-- The rules of collections are counted tree by tree. -/
theorem total_ruleCount (cs : List Rule.Collection) :
    total (cs.map (·.ruleCount)) = ((trees cs).flatMap rulesOf).length := by
  rw [trees, List.flatMap_assoc, length_flatMap_eq_total]
  refine congrArg total (List.map_congr_left fun c _ => ?_)
  rw [flatMap_rulesOf]
  exact Rule.ruleCountAll_eq c.categories

/-- Whether an issue is one that a rule about the language makes of a match, where the rule stands
in a category that applies or below one. -/
def ComesFromRule (a : Analyzer) (code : List Char) (language : String)
    (frameworks : List String) (i : Issue) : Prop :=
  ∃ c ∈ a.collections, ∃ top ∈ c.categories, Applies code language frameworks c top ∧
    ∃ cat ∈ top.walk, ∃ r ∈ cat.rules, r.scope.covers language = true ∧
      ∃ m ∈ Rule.findMatches r.pattern code, i = Rule.issueOf c.name c.kind cat r m

theorem mem_ruleFindings_iff : i ∈ a.ruleFindings code hint path ↔
    a.ComesFromRule code (a.languageOf code hint path) (Language.frameworks code path) i := by
  rw [ruleFindings, applied, collectionsFor_eq, List.mem_flatMap]
  constructor
  · rintro ⟨c', hc', hi⟩
    obtain ⟨c, hc, rfl⟩ := List.mem_map.1 (List.mem_filter.1 hc').1
    obtain ⟨cat, hcat, r, hr, hcovers, m, hm, rfl⟩ := Rule.Collection.mem_issues_iff.1 hi
    rw [Rule.Collection.walk, Rule.walkAll_eq_flatMap, List.mem_flatMap] at hcat
    obtain ⟨top, htop, hcat⟩ := hcat
    obtain ⟨htop, happlies⟩ := mem_categories_applicable.1 htop
    exact ⟨c, hc, top, htop, happlies, cat, hcat, r, hr, hcovers, m, hm, rfl⟩
  · rintro ⟨c, hc, top, htop, happlies, cat, hcat, r, hr, hcovers, m, hm, rfl⟩
    have hkept := mem_categories_applicable.2 ⟨htop, happlies⟩
    refine ⟨_, List.mem_filter.2 ⟨List.mem_map_of_mem hc, ?_⟩, ?_⟩
    · simpa [Rule.Collection.isEmpty] using List.ne_nil_of_mem hkept
    · refine Rule.Collection.mem_issues_iff.2 ⟨cat, ?_, r, hr, hcovers, m, hm, rfl⟩
      rw [Rule.Collection.walk, Rule.walkAll_eq_flatMap]
      exact List.mem_flatMap.2 ⟨top, hkept, hcat⟩

theorem exists_issue_of_mem_ruleFindings (h : i ∈ a.ruleFindings code hint path) :
    ∃ j ∈ (a.analyze code hint path extra).issues, j.line = i.line ∧ j.message = i.message := by
  obtain ⟨c, hc, hi⟩ := List.mem_flatMap.1 h
  have hrule : i ∈ ruleIssues (c.kind == .security) (a.languageOf code hint path) code
      (a.applied code hint path) :=
    List.mem_flatMap.2 ⟨c, List.mem_filter.2 ⟨hc, beq_self_eq_true _⟩, hi⟩
  have hkey : i.key ∈ (a.analyze code hint path extra).issues.map Issue.key := by
    refine (Issue.mem_key_merge _ _).2 (List.mem_map_of_mem ?_)
    simp only [List.flatten_cons, List.flatten_nil, List.append_nil, List.mem_append]
    cases hkind : c.kind == .security with
    | true => exact .inr (.inr (.inr (hkind ▸ hrule)))
    | false => exact .inl (hkind ▸ hrule)
  obtain ⟨j, hj, hsame⟩ := List.mem_map.1 hkey
  exact ⟨j, hj, Prod.mk.inj hsame⟩

/-- An analysis consults the categories that apply, whatever the collections are: all collections
in their order, each cut down to the categories that apply, but for those with none. The rules
that it counts are those of these trees at any depth. An issue that was not handed in and is not
about a figure comes from one of them, and each match of one of them that is about the language is
told of. Where more frameworks show, no tree goes missing. -/
theorem analysis_consults_applicable (a : Analyzer) (code : List Char) (hint path : Option String)
    (extra : List Issue) :
    let r := a.analyze code hint path extra
    let consulted := a.collectionsFor code r.language r.frameworks
    (consulted = (a.collections.map (applicable code r.language r.frameworks)).filter
      fun c => !c.isEmpty) ∧
    (∀ t, t ∈ trees consulted ↔ ∃ c ∈ a.collections, ∃ cat ∈ c.categories,
      Applies code r.language r.frameworks c cat ∧ t = (c.name, cat)) ∧
    r.rulesApplied = ((trees consulted).flatMap rulesOf).length ∧
    (∀ i, i ∈ r.issues ∨ i ∈ r.quality ∨ i ∈ r.security →
      i ∈ extra ∨ i ∈ a.figureFindings code ∨
        a.ComesFromRule code r.language r.frameworks i) ∧
    (∀ i, a.ComesFromRule code r.language r.frameworks i →
      ∃ j ∈ r.issues, j.line = i.line ∧ j.message = i.message) ∧
    ∀ language frameworks more, frameworks ⊆ more →
      (trees (a.collectionsFor code language frameworks)).Sublist
        (trees (a.collectionsFor code language more)) := by
  intro r consulted
  refine ⟨a.collectionsFor_eq code _ _, fun t => mem_trees_collectionsFor, total_ruleCount _,
    fun i hi => ?_, fun i hi => ?_, fun language frameworks more hmore => trees_sublist hmore⟩
  · have hfound : i ∈ extra ∨ i ∈ a.ruleFindings code hint path ∨ i ∈ a.figureFindings code := by
      rcases hi with hi | hi | hi
      · exact mem_findings_of_mem_issues hi
      · exact mem_findings_of_mem_quality hi
      · exact mem_findings_of_mem_security hi
    rcases hfound with hextra | hrule | hfigure
    · exact .inl hextra
    · exact .inr (.inr (mem_ruleFindings_iff.1 hrule))
    · exact .inr (.inl hfigure)
  · exact exists_issue_of_mem_ruleFindings (mem_ruleFindings_iff.2 hi)

end Analyzer

end RuleReview
