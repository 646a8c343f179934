import RuleReview.Analyzer.Checked
import RuleReview.Proofs.Issue.Merge
import RuleReview.Proofs.Metrics.Figures
import RuleReview.Proofs.Pattern.Span
import RuleReview.Proofs.Rule.Match
import RuleReview.Proofs.Stop

/-! An analysis never stops. A check lets a valid issue through as it is, and the issues of rules
and of figures are valid: their confidence is brought between the bounds, they count from one, and
a match lies on its line. So every issue that an analysis makes itself is valid and stands in the
text, and no figure of a text lacks a ratio. -/

namespace RuleReview

namespace Issue

variable {i : Issue} {is : List Issue}

theorem check_eq (i : Issue) : i.check =
    if i.confidence < minConfidence ∨ maxConfidence < i.confidence then
      .error (.confidence i.draft.confidence.shown)
    else if (i.line : Int) < 1 ∨ (i.column : Int) < 1 then .error (.location i.line i.column)
    else .ok i := by
  by_cases hconfidence : i.confidence < minConfidence ∨ maxConfidence < i.confidence
  · rw [if_pos hconfidence]
    exact if_pos hconfidence
  · rw [if_neg hconfidence]
    refine (if_neg hconfidence).trans ?_
    by_cases hplace : (i.line : Int) < 1 ∨ (i.column : Int) < 1
    · rw [if_pos hplace]
      exact if_pos hplace
    · rw [if_neg hplace]
      exact if_neg hplace

theorem valid_iff : i.Valid ↔ ¬ (i.confidence < minConfidence ∨ maxConfidence < i.confidence) ∧
    ¬ ((i.line : Int) < 1 ∨ (i.column : Int) < 1) := by
  rw [not_or, not_or, Rat.not_lt, Rat.not_lt]
  constructor
  · rintro ⟨hline, hcolumn, hleast, hgreatest⟩
    exact ⟨⟨hleast, hgreatest⟩, by omega, by omega⟩
  · rintro ⟨⟨hleast, hgreatest⟩, hline, hcolumn⟩
    exact ⟨by omega, by omega, hleast, hgreatest⟩

/-- A check changes nothing, and lets valid issues through only. -/
theorem check_eq_ok_iff {j : Issue} : i.check = .ok j ↔ j = i ∧ i.Valid := by
  rw [check_eq, valid_iff]
  split
  next hconfidence => exact ⟨nofun, fun h => absurd hconfidence h.2.1⟩
  next hconfidence =>
    split
    next hplace => exact ⟨nofun, fun h => absurd hplace h.2.2⟩
    next hplace =>
      exact ⟨fun h => ⟨(Except.ok.inj h).symm, hconfidence, hplace⟩,
        fun h => congrArg Except.ok h.1.symm⟩

theorem mapM_check (h : ∀ i ∈ is, i.Valid) : is.mapM check = .ok is := by
  induction is with
  | nil => rfl
  | cons i is ih =>
    obtain ⟨hi, his⟩ := List.forall_mem_cons.1 h
    rw [List.mapM_cons, check_eq_ok_iff.2 ⟨rfl, hi⟩, ih his]
    rfl

end Issue

namespace Rule

/-! ### Confidence -/

theorem bonus_cases (subCategory : String) : bonus subCategory = Decimal.nearest (2 / 10) ∨
    bonus subCategory = Decimal.nearest (1 / 10) ∨ bonus subCategory = 0 := by
  rw [bonus]
  split
  next => exact .inl rfl
  next =>
    split
    next => exact .inr (.inl rfl)
    next => exact .inr (.inr rfl)

/-- A match is sure enough for an issue, and not too sure, under every sub-category. -/
theorem confidence_bounds (subCategory : String) :
    Issue.minConfidence ≤ confidence baseConfidence subCategory ∧
      confidence baseConfidence subCategory ≤ Issue.maxConfidence := by
  rw [confidence]
  rcases bonus_cases subCategory with h | h | h <;> rw [h] <;> decide +kernel

/-! ### Matches -/

theorem confidence_of_mem_lineMatches {p : Pattern} {n : Nat} {t : Pattern.Line} {m : Match}
    (h : m ∈ lineMatches p n t) : m.confidence = baseConfidence := by
  obtain ⟨s, -, rfl⟩ := List.mem_map.1 h
  rfl

/-- A match starts on its line, at the latest with its last character. -/
theorem column_of_mem_lineMatches {p : Pattern} {n : Nat} {cs : List Char} {m : Match}
    (h : m ∈ lineMatches p n (.ofList cs)) : 1 ≤ m.column ∧ m.column ≤ cs.length := by
  obtain ⟨s, hs, rfl⟩ := List.mem_map.1 h
  obtain ⟨hs, hne⟩ := List.mem_filter.1 hs
  obtain ⟨hstart, hend⟩ := p.span_bounds cs hs
  have hdistinct : s.1 ≠ s.2 := bne_iff_ne.1 hne
  dsimp only
  omega

/-! ### Issues -/

/-- An issue on a line of a text. -/
def IsPlacedIn (code : List Char) (i : Issue) : Prop :=
  ∃ line, (Text.rows code)[i.line - 1]? = some line ∧ i.column ≤ (withoutReturns line).length

variable {col : Collection} {language : String} {code : List Char} {i : Issue}

theorem isPlacedIn_of_mem_issues (h : i ∈ col.issues language code) : IsPlacedIn code i := by
  obtain ⟨n, line, c, r, m, hline, hm, rfl⟩ := Collection.exists_match_of_mem_issues h
  have hn : (issueOf col.name col.kind c r m).line - 1 = n :=
    congrArg (· - 1) (line_of_mem_lineMatches hm)
  exact ⟨line, hn ▸ hline, (column_of_mem_lineMatches hm).2⟩

theorem valid_of_mem_issues (h : i ∈ col.issues language code) : i.Valid := by
  obtain ⟨n, line, c, r, m, -, hm, rfl⟩ := Collection.exists_match_of_mem_issues h
  have hline := line_of_mem_lineMatches hm
  have hpos : 1 ≤ m.line := by omega
  have hbounds := confidence_bounds r.subCategory
  rw [← confidence_of_mem_lineMatches hm] at hbounds
  exact {
    line_pos := hpos
    column_pos := (column_of_mem_lineMatches hm).1
    least := hbounds.1
    greatest := hbounds.2 }

end Rule

namespace Metrics

theorem exists_eq_issue_of_mem_issues {t : Config.Thresholds} {m : Metrics} {i : Issue}
    (h : i ∈ issues t m) : ∃ severity title message fix, i = issue severity title message fix := by
  simp only [issues, Figures.issues, complexityIssues, lengthIssues, nestingIssues,
    duplicationIssues, commentIssues, List.mem_append, List.mem_ite_nil_right,
    List.mem_singleton] at h
  rcases h with (((h | ⟨-, rfl⟩) | ⟨-, rfl⟩) | ⟨-, rfl⟩) | ⟨-, rfl⟩
  · split at h
    next => exact ⟨_, _, _, _, List.mem_singleton.1 h⟩
    next =>
      obtain ⟨-, h⟩ := List.mem_ite_nil_right.1 h
      exact ⟨_, _, _, _, List.mem_singleton.1 h⟩
  all_goals exact ⟨_, _, _, _, rfl⟩

theorem line_of_mem_issues {t : Config.Thresholds} {m : Metrics} {i : Issue}
    (h : i ∈ issues t m) : i.line = 1 := by
  obtain ⟨severity, title, message, fix, rfl⟩ := exists_eq_issue_of_mem_issues h
  rfl

theorem reportConfidence_bounds :
    Issue.minConfidence ≤ reportConfidence ∧ reportConfidence ≤ Issue.maxConfidence := by
  decide +kernel

theorem valid_of_mem_issues {t : Config.Thresholds} {m : Metrics} {i : Issue}
    (h : i ∈ issues t m) : i.Valid := by
  obtain ⟨severity, title, message, fix, rfl⟩ := exists_eq_issue_of_mem_issues h
  exact {
    line_pos := Nat.le_refl 1
    column_pos := Nat.le_refl 1
    least := reportConfidence_bounds.1
    greatest := reportConfidence_bounds.2 }

end Metrics

namespace Analyzer

variable {code : List Char} {language : String} {hint path : Option String} {extra : List Issue}

/-! ### Checks -/

theorem issues?_eq_ok (col : Rule.Collection) (language : String) (code : List Char) :
    col.issues? language code = .ok (col.issues language code) :=
  Issue.mapM_check fun _ => Rule.valid_of_mem_issues

theorem mapM_findings? (language : String) (code : List Char) (cs : List Rule.Collection) :
    cs.mapM (findings? language code) =
      .ok (cs.map fun c => (c.kind == .security, c.issues language code)) := by
  induction cs with
  | nil => rfl
  | cons c cs ih =>
    rw [List.mapM_cons, ih, findings?, issues?_eq_ok]
    rfl

theorem flatMap_ruleIssues (security : Bool) (language : String) (code : List Char)
    (cs : List Rule.Collection) :
    ((cs.map fun c => (c.kind == .security, c.issues language code)).filter
      (·.1 == security)).flatMap (·.2) = ruleIssues security language code cs := by
  rw [List.filter_map, List.flatMap_map]
  rfl

theorem figureIssues?_eq_ok {t : Config.Thresholds} {m : Metrics}
    (h : m.figures.issues? t = .ok (Metrics.issues t m)) :
    figureIssues? t m = .ok (Metrics.issues t m) := by
  rw [figureIssues?, h]
  change ((Metrics.issues t m).mapM Issue.check).mapError Error.issue = _
  rw [Issue.mapM_check fun _ => Metrics.valid_of_mem_issues]
  rfl

theorem analyze?_eq_ok (a : Analyzer) (h : code.length ≤ Text.maxSize) :
    a.analyze? code hint path extra = .ok (a.analyze code hint path extra) := by
  rw [analyze?, mapM_findings?, Metrics.ofCode?_eq_ok h]
  have hfigures := figureIssues?_eq_ok (Metrics.issues?_ofCode h a.config.metrics)
  simp only [Except.mapError, Stop.ok_bind, hfigures, flatMap_ruleIssues]
  rfl

/-! ### Issues -/

def languageOf (a : Analyzer) (code : List Char) (hint path : Option String) : String :=
  Language.resolve code hint path a.config.defaultLanguage

def applied (a : Analyzer) (code : List Char) (hint path : Option String) :
    List Rule.Collection :=
  a.collectionsFor code (a.languageOf code hint path) (Language.frameworks code path)

/-- The issues that rules find in a text. -/
def ruleFindings (a : Analyzer) (code : List Char) (hint path : Option String) : List Issue :=
  (a.applied code hint path).flatMap (·.issues (a.languageOf code hint path) code)

/-- The issues about the figures of a text. -/
def figureFindings (a : Analyzer) (code : List Char) : List Issue :=
  Metrics.issues a.config.metrics (.ofCode code)

theorem mem_ruleFindings_of_mem_ruleIssues {a : Analyzer} {security : Bool} {i : Issue}
    (h : i ∈ ruleIssues security (a.languageOf code hint path) code (a.applied code hint path)) :
    i ∈ a.ruleFindings code hint path := by
  obtain ⟨c, hc, hi⟩ := List.mem_flatMap.1 h
  exact List.mem_flatMap.2 ⟨c, (List.mem_filter.1 hc).1, hi⟩

theorem quality_analyze (a : Analyzer) : (a.analyze code hint path extra).quality =
    Issue.merge [ruleIssues false (a.languageOf code hint path) code (a.applied code hint path),
      a.figureFindings code, extra] := rfl

theorem security_analyze (a : Analyzer) : (a.analyze code hint path extra).security =
    Issue.merge [ruleIssues true (a.languageOf code hint path) code (a.applied code hint path)] :=
  rfl

variable {a : Analyzer} {i : Issue}

theorem mem_findings_of_mem_quality (h : i ∈ (a.analyze code hint path extra).quality) :
    i ∈ extra ∨ i ∈ a.ruleFindings code hint path ∨ i ∈ a.figureFindings code := by
  have hflat := Issue.mem_of_mem_merge (quality_analyze a ▸ h)
  simp only [List.flatten_cons, List.flatten_nil, List.append_nil, List.mem_append] at hflat
  rcases hflat with hrule | hfigure | hextra
  · exact .inr (.inl (mem_ruleFindings_of_mem_ruleIssues hrule))
  · exact .inr (.inr hfigure)
  · exact .inl hextra

theorem mem_findings_of_mem_security (h : i ∈ (a.analyze code hint path extra).security) :
    i ∈ extra ∨ i ∈ a.ruleFindings code hint path ∨ i ∈ a.figureFindings code := by
  have hflat := Issue.mem_of_mem_merge (security_analyze a ▸ h)
  rw [List.flatten_singleton] at hflat
  exact .inr (.inl (mem_ruleFindings_of_mem_ruleIssues hflat))

/-- Every issue of an analysis was handed in, or is one of a rule or about a figure. -/
theorem mem_findings_of_mem_issues (h : i ∈ (a.analyze code hint path extra).issues) :
    i ∈ extra ∨ i ∈ a.ruleFindings code hint path ∨ i ∈ a.figureFindings code := by
  rw [Issue.issues_analyze] at h
  have hflat := Issue.mem_of_mem_merge h
  simp only [List.flatten_cons, List.flatten_nil, List.append_nil, List.mem_append] at hflat
  rcases hflat with hquality | hsecurity
  · exact mem_findings_of_mem_quality hquality
  · exact mem_findings_of_mem_security hsecurity

/-- The issues of rules are valid, and each starts on a line of the text. -/
theorem sound_of_mem_ruleFindings (h : i ∈ a.ruleFindings code hint path) :
    i.Valid ∧ i.line ≤ (Text.rows code).length ∧ Rule.IsPlacedIn code i := by
  obtain ⟨c, -, hi⟩ := List.mem_flatMap.1 h
  obtain ⟨n, line, hn, hline⟩ := Rule.Collection.exists_row_of_mem_issues hi
  obtain ⟨hlt, -⟩ := List.getElem?_eq_some_iff.1 hline
  exact ⟨Rule.valid_of_mem_issues hi, hn ▸ hlt, Rule.isPlacedIn_of_mem_issues hi⟩

theorem sound_of_mem_figureFindings (h : i ∈ a.figureFindings code) :
    i.Valid ∧ i.line ≤ (Text.rows code).length := by
  refine ⟨Metrics.valid_of_mem_issues h, ?_⟩
  rw [Metrics.line_of_mem_issues h]
  exact Nat.pos_of_ne_zero (Metrics.length_rows_ne_zero code)

end Analyzer

theorem totalLines_analyze (a : Analyzer) (code : List Char) (hint path : Option String)
    (extra : List Issue) :
    (a.analyze code hint path extra).metrics.totalLines = (Text.rows code).length := rfl

end RuleReview
