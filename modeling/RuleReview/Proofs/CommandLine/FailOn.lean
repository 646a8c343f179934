import RuleReview.CommandLine.Run
import RuleReview.Proofs.Analyzer.Files
import RuleReview.Proofs.Analyzer.Gate
import RuleReview.Proofs.Console.Print
import RuleReview.Proofs.Stop

/-! Analyses that fail for grave issues: the code that a command line ends with, and what of
the issues it depends on. -/

namespace RuleReview

namespace CommandLine

open Issue (atOrAbove)

variable {σ : Type} {s : Setting σ} {o : Order} {t : AnalysisOrder} {rs : List Report}

/-! ### Reports -/

def reportsOf (s : Setting σ) (o : Order) (t : AnalysisOrder) : TaskM σ (List Report) := do
  reports s (← loadAnalyzer s o.project) t.workers t.path t.language

theorem exists_of_mem_directoryReports {a : Analyzer} {workers : Nat} {directory : Path}
    {st : Session σ × Journal} (h : (directoryReports s a workers directory st).1 = .ok rs) :
    ∀ r ∈ rs, ∃ code hint file, r.analysis = a.analyze code hint file := by
  rw [directoryReports] at h
  simp only [Stop.fst_bind, WorldM.mapError_apply] at h
  obtain ⟨found, hfound, h⟩ := Stop.bind_eq_ok.1 h
  obtain rfl := Except.ok.inj h
  have hfound : (a.analyzeFiles s.workspace workers []
      (s.workspace.sources directory Language.allExtensions) st.2).1 = .ok found := by
    obtain ⟨session, j⟩ := st
    change Except.mapError _ (a.analyzeFiles s.workspace workers []
      (s.workspace.sources directory Language.allExtensions) j).1 = _ at hfound
    cases hfiles : (a.analyzeFiles s.workspace workers []
        (s.workspace.sources directory Language.allExtensions) j).1 with
    | ok os => rw [hfiles] at hfound; exact congrArg Except.ok (Except.ok.inj hfound)
    | error f => rw [hfiles] at hfound; cases hfound
  intro r hr
  obtain ⟨⟨p, analysis⟩, hp, rfl⟩ := List.mem_map.1 hr
  obtain ⟨text, path, hanalysis⟩ := Analyzer.exists_of_mem_analyzed hfound hp
  exact ⟨text, none, some path, hanalysis⟩

theorem exists_of_mem_reports {a : Analyzer} {workers : Nat} {path : String}
    {language : Option String} {st : Session σ × Journal}
    (h : (reports s a workers path language st).1 = .ok rs) :
    ∀ r ∈ rs, ∃ code hint file, r.analysis = a.analyze code hint file := by
  have hsingle (st : Session σ × Journal) (h : ((do
      let t ← readText s path
      let r := a.analyze t.2.1.toList language t.2.2
      WorldM.ofLog (LogM.add r.entry)
      return [⟨t.1, r⟩] : TaskM σ (List Report)) st).1 = .ok rs) :
      ∀ r ∈ rs, ∃ code hint file, r.analysis = a.analyze code hint file := by
    simp only [Stop.fst_bind] at h
    obtain ⟨t, -, h⟩ := Stop.bind_eq_ok.1 h
    obtain ⟨-, -, h⟩ := Stop.bind_eq_ok.1 h
    cases h
    exact List.forall_mem_singleton.2 ⟨_, _, _, rfl⟩
  rw [reports] at h
  split at h
  next => exact hsingle st h
  next =>
    cases hlook : s.workspace.look (Path.ofString path) with
    | error f => rw [hlook] at h; cases h
    | ok there =>
      rw [hlook] at h
      simp only [pure_bind] at h
      rcases there with _ | (content | entries)
      · exact hsingle st h
      · exact hsingle st h
      · exact exists_of_mem_directoryReports h

def grave (threshold : Severity) (rs : List Report) : List Issue :=
  rs.flatMap fun r => Issue.atOrAbove threshold r.analysis.issues

theorem exists_of_mem_reportsOf {st : Session σ × Journal} (h : (reportsOf s o t st).1 = .ok rs) :
    ∃ a, (loadAnalyzer s o.project st).1 = .ok a ∧
      ∀ r ∈ rs, ∃ code hint file, r.analysis = a.analyze code hint file := by
  rw [reportsOf, Stop.fst_bind] at h
  obtain ⟨a, ha, h⟩ := Stop.bind_eq_ok.1 h
  exact ⟨a, ha, exists_of_mem_reports h⟩

theorem grave_ne_nil {threshold : Severity} {r : Report} (hr : r ∈ rs)
    (h : atOrAbove threshold r.analysis.issues ≠ []) : grave threshold rs ≠ [] := by
  intro hnil
  exact h (List.flatMap_eq_nil_iff.1 hnil r hr)

/-! ### Endings -/

/-- Why reports cannot be printed in a format to the end. -/
def refusalOf (s : Setting σ) (v : Log.Verbosity) (format : String) (rs : List Report) :
    Option Console.Markup.Error :=
  if formatKey format = "terminal" then
    (Report.terminal s.width (showsDetails s v) rs).refusal
  else none

theorem printReports_fst (v : Log.Verbosity) {format : String}
    (hformat : formatKey format ∈ ["terminal", "json", "markdown"]) (st : Session σ × Journal) :
    (printReports s v format rs st).1 =
      (refusalOf s v format rs).elim (.ok ()) fun e => .error (refuse e) := by
  rw [printReports, refusalOf]
  simp only [List.mem_cons, List.not_mem_nil, or_false] at hformat
  rcases hformat with hformat | hformat | hformat
  · rw [hformat]
    simp only [Stop.fst_bind]
    cases (Report.terminal s.width (showsDetails s v) rs).refusal <;> rfl
  · rw [hformat]
    rfl
  · rw [hformat]
    rfl

theorem complain_fst (s : Setting σ) (code : Nat) {text : String} (htext : '[' ∉ text.toList)
    (st : Session σ × Journal) :
    ∃ page,
      (complain s code text st : Except Stop Unit × _).1 = .error (.complained code page) := by
  have hmarked := Console.isOk_marked_of_notMem htext s.width
  rw [complain]
  cases h : Console.marked s.width text with
  | ok ls => exact ⟨_, rfl⟩
  | error e => rw [h] at hmarked; cases hmarked

/-- What becomes of a run for the grave issues of reports. -/
def failOver (s : Setting σ) (threshold : Severity) (rs : List Report) : TaskM σ Unit :=
  if grave threshold rs = [] then pure ()
  else complain s 1 s!"{(grave threshold rs).length} issue(s) at or above {threshold.name}."

theorem analyze_eq {threshold : Severity} (hfailOn : t.failOn = some threshold) :
    analyze s o t = reportsOf s o t >>= fun rs =>
      printReports s o.verbosity t.format rs >>= fun _ => failOver s threshold rs := by
  rw [reportsOf, bind_assoc, analyze, hfailOn]
  simp only [failOver, ← List.isEmpty_iff]
  rfl

theorem bracket_notMem_complaint (n : Nat) (threshold : Severity) :
    '[' ∉ s!"{n} issue(s) at or above {threshold.name}.".toList := by
  have hname : '[' ∉ threshold.name.toList := by cases threshold <;> decide +kernel
  change '[' ∉ (toString n ++ " issue(s) at or above " ++ threshold.name ++ ".").toList
  rw [String.toList_append, String.toList_append, String.toList_append]
  exact List.not_mem_append (List.not_mem_append (List.not_mem_append (notMem_toString rfl n)
    (by decide +kernel)) hname) (by decide)

theorem code_failOver (threshold : Severity) (st : Session σ × Journal) (printed log : String) :
    (endOf (failOver s threshold rs st).1 printed log).code =
      if grave threshold rs = [] then 0 else 1 := by
  rw [failOver]
  split
  next => rfl
  next =>
    obtain ⟨page, hpage⟩ := complain_fst s 1
      (bracket_notMem_complaint (grave threshold rs).length threshold) st
    rw [hpage]
    rfl

/-- The code that a run ends with whose reports are had. -/
theorem code_run_of_reports {token : Option String} {words : List String}
    (hwords : readWords s.workspace token words = some (.order o)) (htask : o.task = .analyze t)
    {threshold : Severity} (hfailOn : t.failOn = some threshold)
    (hformat : formatKey t.format ∈ ["terminal", "json", "markdown"]) (k : Http.Connection σ)
    (hreports : (reportsOf s o t ({ connection := k }, {})).1 = .ok rs) :
    (run s token words k).1.code =
      if refusalOf s o.verbosity t.format rs = none ∧ grave threshold rs = [] then 0 else 1 := by
  rw [run, hwords]
  dsimp only
  change (endOf (perform s o ({ connection := k }, {})).1 _ _).code = _
  rw [perform, htask]
  dsimp only
  rw [analyze_eq hfailOn, Stop.fst_bind, hreports, RuleReview.Stop.ok_bind, Stop.fst_bind,
    printReports_fst o.verbosity hformat]
  cases refusalOf s o.verbosity t.format rs with
  | some e =>
    rw [if_neg fun h => nomatch h.1]
    rfl
  | none =>
    simp only [true_and]
    exact code_failOver threshold _ _ _

/-- Merged issues have the grave ones about quality and, of those about security, the ones that
no issue about quality precedes with their line and message. Where rules that say the same are
equally grave, as those of the sources that come with the library, merged issues have a grave
one exactly where one of the two lists has. A run whose reports have one ends with code 1. -/
theorem code_run_of_grave (s : Setting σ) {token : Option String} {words : List String}
    (hwords : readWords s.workspace token words = some (.order o)) (htask : o.task = .analyze t)
    {threshold : Severity} (hfailOn : t.failOn = some threshold)
    (hformat : formatKey t.format ∈ ["terminal", "json", "markdown"]) (k : Http.Connection σ)
    (hreports : (reportsOf s o t ({ connection := k }, {})).1 = .ok rs) :
    (∀ (a : Analyzer) (code : List Char) (hint path : Option String) (extra : List Issue)
      (least : Severity),
      let r := a.analyze code hint path extra
      (atOrAbove least r.issues).Perm (atOrAbove least r.quality ++
        (atOrAbove least r.security).filter (·.key ∉ r.quality.map Issue.key))) ∧
    (∀ a : Analyzer, Rule.Concordant a.collections →
      ∀ (code : List Char) (hint path : Option String) (least : Severity),
        let r := a.analyze code hint path
        atOrAbove least r.issues = [] ↔
          atOrAbove least r.quality = [] ∧ atOrAbove least r.security = []) ∧
    (∀ (w : Workspace) (c : Config) (a : Analyzer), c.rules.extra = [] →
      (Analyzer.build w c).outcome.1 = .ok a → Rule.Concordant a.collections) ∧
    (∃ a, (loadAnalyzer s o.project ({ connection := k }, {})).1 = .ok a ∧
      (∀ r ∈ rs, ∃ code hint path, r.analysis = a.analyze code hint path) ∧
      ∀ r ∈ rs, atOrAbove threshold r.analysis.quality ≠ [] ∨
        Rule.Concordant a.collections ∧ atOrAbove threshold r.analysis.security ≠ [] →
        (run s token words k).1.code = 1) ∧
    (run s token words k).1.code =
      if refusalOf s o.verbosity t.format rs = none ∧ grave threshold rs = [] then 0 else 1 := by
  have hcode := code_run_of_reports hwords htask hfailOn hformat k hreports
  obtain ⟨a, ha, hanalyses⟩ := exists_of_mem_reportsOf hreports
  refine ⟨Analyzer.atOrAbove_issues_perm,
    fun a hrules code hint path least => Analyzer.atOrAbove_issues_eq_nil hrules,
    fun w c a => Analyzer.concordant_build, ⟨a, ha, hanalyses, ?_⟩, hcode⟩
  intro r hr hgrave
  obtain ⟨code, hint, path, hanalysis⟩ := hanalyses r hr
  have hissues : atOrAbove threshold r.analysis.issues ≠ [] := by
    rw [hanalysis] at hgrave ⊢
    rcases hgrave with hquality | ⟨hrules, hsecurity⟩
    · exact Analyzer.atOrAbove_issues_ne_nil hquality
    · exact fun hnil => hsecurity ((Analyzer.atOrAbove_issues_eq_nil hrules).1 hnil).2
  rw [hcode, if_neg fun h => grave_ne_nil hr hissues h.2]

/-- What works on a directory with a source about security, and is handed a text on which it
reports. The way to mend what it reports cannot be printed. -/
def settingOfSource : Setting Unit where
  workspace := ⟨Path.ofString "/ws", .directory [
    ("pyproject.toml", .file ("[tool.codesentry.rules]\nsources=[]\nextra.s=\"s\"\n" ++
      "extra-kinds.s=\"security\"\n").toUTF8),
    ("s", .file ("\x7b\"k\":\x7b\"patterns\":" ++
      "[\x7b\"pattern\":\"x\",\"description\":\"d\",\"fix\":\"[/]\"\x7d]\x7d\x7d").toUTF8)]⟩
  input := "x"
  width := 80
  runner := fun args _ => .ok ⟨args, 0, "", ""⟩
  client := ⟨fun _ _ => (.unreachable, ()), fun _ => (0, ())⟩
  nameOf := fun _ => ""
  words := fun _ => ""
  hasContext := true

/-- An issue of medium severity makes a run fail that is to fail for those. One that is to fail for
critical ones ends well where it is quiet, for then the issue is not printed. -/
theorem code_run_of_grave_source :
    (run settingOfSource none ["analyze", "-", "--format", "json", "--fail-on", "medium"]
      ⟨(), []⟩).1.code = 1 ∧
    (run settingOfSource none ["-q", "analyze", "-", "--fail-on", "critical"]
      ⟨(), []⟩).1.code = 0 := by
  have hwords : readWords settingOfSource.workspace none
      ["analyze", "-", "--format", "json", "--fail-on", "medium"] =
      some (.order ⟨.normal, Path.ofString "/ws",
        .analyze ⟨"-", none, "json", some .medium, 1⟩⟩) := by
    decide +kernel
  have hquiet : readWords settingOfSource.workspace none
      ["-q", "analyze", "-", "--fail-on", "critical"] =
      some (.order ⟨.quiet, Path.ofString "/ws",
        .analyze ⟨"-", none, "terminal", some .critical, 1⟩⟩) := by
    decide +kernel
  have hgrave : (reportsOf settingOfSource ⟨.normal, Path.ofString "/ws",
      .analyze ⟨"-", none, "json", some .medium, 1⟩⟩ ⟨"-", none, "json", some .medium, 1⟩
        (⟨⟨(), []⟩, ""⟩, {})).1.toOption.map (fun rs => (grave .medium rs).length) = some 1 := by
    decide +kernel
  have hprinted : (reportsOf settingOfSource ⟨.quiet, Path.ofString "/ws",
      .analyze ⟨"-", none, "terminal", some .critical, 1⟩⟩
        ⟨"-", none, "terminal", some .critical, 1⟩ (⟨⟨(), []⟩, ""⟩, {})).1.toOption.map
          (fun rs => (refusalOf settingOfSource .quiet "terminal" rs, grave .critical rs)) =
      some (none, []) := by
    decide +kernel
  obtain ⟨rs, hrs, hlength⟩ := Option.map_eq_some_iff.1 hgrave
  obtain ⟨rs', hrs', hnone⟩ := Option.map_eq_some_iff.1 hprinted
  obtain ⟨-, -, -, -, hcode⟩ := code_run_of_grave settingOfSource hwords rfl rfl
    (by decide +kernel) ⟨(), []⟩ (RuleReview.Stop.eq_ok_of_toOption hrs)
  obtain ⟨-, -, -, -, hcode'⟩ := code_run_of_grave settingOfSource hquiet rfl rfl
    (by decide +kernel) ⟨(), []⟩ (RuleReview.Stop.eq_ok_of_toOption hrs')
  rw [hcode, hcode', if_neg, if_pos (Prod.mk.inj hnone)]
  · exact ⟨rfl, rfl⟩
  · rintro ⟨-, hnil⟩
    rw [hnil] at hlength
    cases hlength

def saying (kind : Issue.Kind) (severity : Severity) : Rule.Collection where
  name := kind.name
  kind := kind
  categories := [.mk "k" "K" severity [{
    source := "x", pattern := .set ⟨.exact, false, [.one 120]⟩, scope := .single "all",
    subCategory := "", description := "d" }] [] []]

/-- A low issue about quality takes away a critical one about security that says the same, and
with it the grave issues. -/
theorem atOrAbove_issues_lost :
    let r := Analyzer.analyze ⟨{}, [saying .quality .low, saying .security .critical]⟩ ['x']
    (atOrAbove .high r.security).length = 1 ∧ atOrAbove .high r.issues = [] := by
  decide +kernel

end CommandLine

end RuleReview
