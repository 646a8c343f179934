import RuleReview.Proofs.Analyzer.Gate
import RuleReview.Proofs.Report.Record
import RuleReview.Proofs.Service.Answer

/-! The answers of the service to one text are about one analysis. What an issue is about follows
from the collection that it comes from, so the report on security leaves out no issue about
security, and the list of all issues has the records of both lists but for those about security
that say what one about quality says of its line. -/

namespace RuleReview

/-! ### Kinds of issues -/

theorem Metrics.kind_of_mem_issues {t : Config.Thresholds} {m : Metrics} {i : Issue}
    (h : i ∈ issues t m) : i.kind = .quality := by
  obtain ⟨severity, title, message, fix, rfl⟩ := exists_eq_issue_of_mem_issues h
  rfl

namespace Analyzer

variable {a : Analyzer} {code : List Char} {hint path : Option String} {i : Issue}

theorem kind_of_mem_ruleIssues {security : Bool} {language : String} {cs : List Rule.Collection}
    (h : i ∈ ruleIssues security language code cs) : (i.kind == .security) = security := by
  obtain ⟨c, hc, hi⟩ := List.mem_flatMap.1 h
  rw [(Rule.Collection.mem_messages_of_mem_issues hi).2]
  exact beq_iff_eq.1 (List.mem_filter.1 hc).2

theorem kind_of_mem_security (h : i ∈ (a.analyze code hint path).security) :
    i.kind = .security := by
  have hflat := Issue.mem_of_mem_merge (security_analyze a ▸ h)
  rw [List.flatten_singleton] at hflat
  exact beq_iff_eq.1 (kind_of_mem_ruleIssues hflat)

theorem kind_of_mem_quality (h : i ∈ (a.analyze code hint path).quality) :
    i.kind ≠ .security := by
  have hflat := Issue.mem_of_mem_merge (quality_analyze a ▸ h)
  simp only [List.flatten_cons, List.flatten_nil, List.append_nil, List.mem_append] at hflat
  rcases hflat with hrule | hfigure
  · exact beq_eq_false_iff_ne.1 (kind_of_mem_ruleIssues hrule)
  · rw [Metrics.kind_of_mem_issues hfigure]
    decide

end Analyzer

namespace Report

/-! ### Records of an analysis -/

variable {a : Analyzer} {code : List Char} {hint : Option String}

def qualityRecords (a : Analysis) : List Data := a.quality.map fun i => .object (qualityRecord i)

def securityRecords (a : Analysis) : List Data := a.security.map fun i => .object (securityRecord i)

def issueRecords (a : Analysis) : List Data := a.issues.map fun i => .object (issueRecord i)

theorem plainRecord_of_mem_quality {i : Issue} (h : i ∈ (a.analyze code hint).quality) :
    plainRecord i = qualityRecord i := by
  rw [plainRecord, if_neg (by simpa using Analyzer.kind_of_mem_quality h)]

theorem plainRecord_of_mem_security {i : Issue} (h : i ∈ (a.analyze code hint).security) :
    plainRecord i = securityRecord i := by
  rw [plainRecord, if_pos (by simpa using Analyzer.kind_of_mem_security h)]

/-- A line and a message are told by a record about quality where an issue has them. -/
theorem told_mem_qualityRecords (a : Analysis) (i : Issue) :
    (some i.line, some i.message) ∈ (qualityRecords a).map told ↔
      i.key ∈ a.quality.map Issue.key := by
  rw [qualityRecords, List.map_map]
  constructor
  · intro h
    obtain ⟨j, hj, hsame⟩ := List.mem_map.1 h
    rw [Function.comp_apply, told_qualityRecord, Prod.mk.injEq, Option.some_inj, Option.some_inj]
      at hsame
    exact List.mem_map.2 ⟨j, hj, Prod.ext hsame.1 hsame.2⟩
  · intro h
    obtain ⟨j, hj, hsame⟩ := List.mem_map.1 h
    obtain ⟨hline, hmessage⟩ := Prod.mk.inj hsame
    refine List.mem_map.2 ⟨j, hj, ?_⟩
    rw [Function.comp_apply, told_qualityRecord, hline, hmessage]

theorem filter_securityRecords (a : Analysis) :
    (securityRecords a).filter (fun d => told d ∉ (qualityRecords a).map told) =
      (a.security.filter (·.key ∉ a.quality.map Issue.key)).map
        fun i => .object (securityRecord i) := by
  rw [securityRecords, List.filter_map]
  refine congrArg (List.map _) (List.filter_congr fun i _ => ?_)
  rw [Function.comp_apply, told_securityRecord]
  exact decide_eq_decide.2 (not_congr (told_mem_qualityRecords a i))

/-- The records of all issues, cut down, are those about quality and those about security of which
none about quality tells the line and the message. -/
theorem map_cutDown_perm :
    ((issueRecords (a.analyze code hint)).map cutDown).Perm
      (qualityRecords (a.analyze code hint) ++ (securityRecords (a.analyze code hint)).filter
        fun d => told d ∉ (qualityRecords (a.analyze code hint)).map told) := by
  have hcut : (issueRecords (a.analyze code hint)).map cutDown =
      (a.analyze code hint).issues.map fun i => .object (plainRecord i) := by
    rw [issueRecords, List.map_map]
    exact List.map_congr_left fun i _ => cutDown_issueRecord i
  rw [hcut, filter_securityRecords]
  refine ((Analyzer.issues_perm a code hint none []).map _).trans (List.Perm.of_eq ?_)
  rw [List.map_append]
  congr 1
  · exact List.map_congr_left fun i hi => by rw [plainRecord_of_mem_quality hi]
  · refine List.map_congr_left fun i hi => ?_
    rw [plainRecord_of_mem_security (List.mem_filter.1 hi).1]

theorem securityIssues_analyze :
    securityIssues (a.analyze code hint).security = (a.analyze code hint).security :=
  List.filter_eq_self.2 fun i hi => by simpa using Analyzer.kind_of_mem_security hi

/-- The report on security has a record for each issue about security and their numbers. -/
theorem readings_security (a : Analyzer) (code : List Char) (hint : Option String) (time : String) :
    let report := Data.object (security (a.analyze code hint).security time)
    report.get? "vulnerabilities" = some (.list (securityRecords (a.analyze code hint))) ∧
      report.natural? ["summary", "total"] = some (securityRecords (a.analyze code hint)).length ∧
      breakdown? ["summary"] report = some (Issue.breakdown (a.analyze code hint).security) := by
  refine ⟨?_, ?_, ?_⟩
  · rw [security, securityIssues_analyze]
    rfl
  · rw [security, securityIssues_analyze, securityRecords, List.length_map]
    rfl
  · rw [security, securityIssues_analyze]
    rfl

end Report

namespace Service

open Report

/-- Whether a request asks an endpoint for a task. -/
structure Request.Asks (r : Request) (e : Endpoint) (t : Task) : Prop extends r.LeadsTo e where
  body : Task.read r.body = .ok t

theorem respond_eq_rendered {a : Analyzer} {code : List Char}
    {language : Option (List Text.Letter)} {r : Request} {e : Endpoint}
    (h : r.Asks e ⟨some (String.ofList code), language⟩) (hsize : code.length ≤ Text.maxSize)
    (hblank : Text.isBlankText (String.ofList code) = false) (time : String)
    (he : e.methods = ["POST"]) : respond (analysisOf a) time r =
      .ok (if e = .review ∧ language.any Text.isTorn = true then notSent
        else ⟨200, .data (e.render time (a.analyze code (language.map Text.mend)))⟩) := by
  rw [respond_of_leadsTo h.toLeadsTo, answer_eq_rendered hsize h.body hblank time he, rendered]
  simp only [← namesLanguage_iff, Bool.and_eq_true]

/-- The four answers to one text, whatever the analyzer, the text and the language it is said to be
in. The report on security has the records of the list about security in their order, and its
figures are their numbers. The records of all issues, cut down to what records of their type have,
are those about quality and those about security whose line and message none about quality
tells. The answer with all issues, which alone tells the name of the language, is not sent where
this holds half of a character. -/
theorem answers_agree (a : Analyzer) {code : List Char} (language : Option (List Text.Letter))
    (hsize : code.length ≤ Text.maxSize)
    (hblank : Text.isBlankText (String.ofList code) = false) :
    ∃ (whole : Data) (issues quality security : List Data),
      whole.get? "issues" = some (.list issues) ∧
      (issues.map cutDown).Perm
        (quality ++ security.filter fun d => told d ∉ quality.map told) ∧
      ∀ time, ∃ (report : Data) (counts : Issue.Breakdown),
        report.get? "vulnerabilities" = some (.list security) ∧
        report.natural? ["summary", "total"] = some security.length ∧
        breakdown? ["summary"] report = some counts ∧ counts.sum = security.length ∧
        ∀ answered ∈ [(Endpoint.review, whole), (.quality, .list quality),
            (.security, .list security), (.securityReport, report)],
          ∀ r : Request, r.Asks answered.1 ⟨some (String.ofList code), language⟩ →
            respond (analysisOf a) time r =
              .ok (if answered.1 = .review ∧ language.any Text.isTorn = true then notSent
                else ⟨200, .data answered.2⟩) := by
  let hint := language.map Text.mend
  refine ⟨.object (envelope (a.analyze code hint)), issueRecords (a.analyze code hint),
    qualityRecords (a.analyze code hint), securityRecords (a.analyze code hint), rfl,
    map_cutDown_perm, fun time => ?_⟩
  obtain ⟨hrecords, htotal, hcounts⟩ := readings_security a code hint time
  refine ⟨_, _, hrecords, htotal, hcounts, ?_, ?_⟩
  · rw [Issue.sum_breakdown, securityRecords, List.length_map]
  · intro answered hmem r hr
    simp only [List.mem_cons, List.not_mem_nil, or_false] at hmem
    rcases hmem with rfl | rfl | rfl | rfl
    all_goals exact respond_eq_rendered hr hsize hblank time rfl

def digitRule : Rule where
  source := "1"
  pattern := Metrics.pattern "1"
  scope := .single Rule.everyLanguage
  subCategory := "security"
  description := "a digit"

/-- An analyzer with two kinds of rules, which say the same about a letter. -/
def twoKinds : Analyzer where
  config := {}
  collections := [
    { name := "quality", categories := [.mk "letters" "Letters" .low [letterRule] [] []] },
    { name := "security", kind := .security,
      categories := [.mk "letters" "Letters" .high [letterRule, digitRule] [] []] }]

/-- A line with the letter and one with the digit. -/
def twoLines : List Char := "x\n1".toList

def twoLinesBody : ByteArray := "\x7b\"code\": \"x\\n1\"\x7d".toUTF8

def post (path : String) : Request := ⟨"POST", "http://localhost" ++ path, twoLinesBody⟩

theorem asks_post (path : String) {e : Endpoint}
    (hpath : (Address.path (post path).address).toOption = some path)
    (hendpoint : Endpoint.ofPath? path = some e) (he : e.methods = ["POST"]) :
    (post path).Asks e ⟨some (String.ofList twoLines), none⟩ where
  path := ⟨path, Stop.eq_ok_of_toOption hpath, hendpoint⟩
  method := by
    have hmethod : ["POST"].contains (Text.toUpper "POST") = true := by decide +kernel
    rw [he]
    exact hmethod
  body := by
    have hbody : (Task.read twoLinesBody).toOption = some ⟨some (String.ofList twoLines), none⟩ := by
      decide +kernel
    exact Stop.eq_ok_of_toOption hbody

/-- The letter is told of in both lists and once in the list of all issues. -/
theorem answers_agree_twoLines :
    twoLines.length ≤ Text.maxSize ∧ Text.isBlankText (String.ofList twoLines) = false ∧
    (twoKinds.ruleFindings twoLines none none).map (fun i => (i.kind.name, i.line, i.message)) =
      [("quality", 1, "Letters: a letter"), ("security", 1, "Letters: a letter"),
        ("security", 2, "Letters: a digit")] ∧
    ∃ (whole report : Data) (issues quality security : List Data),
      respond (analysisOf twoKinds) "" (post "/review") = .ok ⟨200, .data whole⟩ ∧
      respond (analysisOf twoKinds) "" (post "/review/quality") =
        .ok ⟨200, .data (.list quality)⟩ ∧
      respond (analysisOf twoKinds) "" (post "/owasp-review") =
        .ok ⟨200, .data (.list security)⟩ ∧
      respond (analysisOf twoKinds) "" (post "/owasp-review/report") =
        .ok ⟨200, .data report⟩ ∧
      whole.get? "issues" = some (.list issues) ∧
      report.get? "vulnerabilities" = some (.list security) ∧
      (issues.map cutDown).Perm
        (quality ++ security.filter fun d => told d ∉ quality.map told) := by
  have hsize : twoLines.length ≤ Text.maxSize := by decide +kernel
  have hblank : Text.isBlankText (String.ofList twoLines) = false := by decide +kernel
  obtain ⟨whole, issues, quality, security, hissues, hperm, htimes⟩ :=
    answers_agree twoKinds none hsize hblank
  obtain ⟨report, -, hrecords, -, -, -, hanswers⟩ := htimes ""
  have hreview := asks_post "/review" (e := .review)
    (by decide +kernel) (by decide +kernel) rfl
  have hquality := asks_post "/review/quality" (e := .quality)
    (by decide +kernel) (by decide +kernel) rfl
  have hsecurity := asks_post "/owasp-review" (e := .security)
    (by decide +kernel) (by decide +kernel) rfl
  have hreport := asks_post "/owasp-review/report" (e := .securityReport)
    (by decide +kernel) (by decide +kernel) rfl
  exact ⟨hsize, hblank, by decide +kernel, whole, report, issues, quality, security,
    hanswers (.review, whole) (by simp) _ hreview,
    hanswers (.quality, .list quality) (by simp) _ hquality,
    hanswers (.security, .list security) (by simp) _ hsecurity,
    hanswers (.securityReport, report) (by simp) _ hreport, hissues, hrecords, hperm⟩

/-- What an answer says where it is a text. -/
def Response.text? (r : Response) : Option String :=
  match r.body with
  | .text s => some s
  | .data _ => none

/-- The records of a text are told at three places, but not together. -/
theorem answers_differ_tornRequest :
    (["/review", "/review/quality", "/owasp-review", "/owasp-review/report"].map fun path =>
      (respond (analysisOf letterAnalyzer) "" (tornRequest path)).toOption.map
        fun r => (r.status, r.text?)) =
      [some (500, some "Internal Server Error"), some (200, none), some (200, none),
        some (200, none)] := by
  decide +kernel

end Service

end RuleReview
