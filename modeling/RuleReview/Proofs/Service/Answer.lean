import RuleReview.Proofs.Analyzer.Sound
import RuleReview.Service

/-! The answers of the service. A request is told what is wrong with its way, or leads to an
endpoint. There a text that is not blank is analyzed, which never stops, and the answer is sent
unless it has to tell half of a character. -/

namespace RuleReview

open Service (Endpoint Task answer analysisOf respond)

namespace Service

/-! ### Where requests lead -/

/-- Whether a request leads to an endpoint that takes its method. -/
structure Request.LeadsTo (r : Request) (e : Endpoint) : Prop where
  path : ∃ path, Address.path r.address = .ok path ∧ Endpoint.ofPath? path = some e
  method : e.methods.contains (Text.toUpper r.method) = true

theorem Request.LeadsTo.ofPath?_eq {r : Request} {e : Endpoint} (h : r.LeadsTo e) {path : String}
    (hpath : Address.path r.address = .ok path) : Endpoint.ofPath? path = some e := by
  obtain ⟨path', hpath', hendpoint⟩ := h.path
  obtain rfl := Except.ok.inj (hpath.symm.trans hpath')
  exact hendpoint

theorem Request.LeadsTo.unique {r : Request} {e e' : Endpoint} (h : r.LeadsTo e)
    (h' : r.LeadsTo e') : e = e' := by
  obtain ⟨path, hpath, hendpoint⟩ := h.path
  exact Option.some.inj (hendpoint.symm.trans (h'.ofPath?_eq hpath))

theorem respond_of_leadsTo {r : Request} {e : Endpoint} (h : r.LeadsTo e)
    (analyze : String → Option String → Option Analysis) (time : String) :
    respond analyze time r = .ok (answer analyze time e r.body) := by
  obtain ⟨path, hpath, hendpoint⟩ := h.path
  rw [respond, hpath, Stop.ok_bind]
  simp only [hendpoint, h.method]
  rfl

/-- A request is told of what is wrong with its way, or gets the answer of an endpoint. -/
theorem leadsTo_of_respond {r : Request} {analyze : String → Option String → Option Analysis}
    {time : String} {resp : Response} (h : respond analyze time r = .ok resp) :
    resp.status ≠ 500 ∧ (¬ ∃ e, r.LeadsTo e) ∨
      ∃ e, r.LeadsTo e ∧ resp = answer analyze time e r.body := by
  obtain ⟨path, hpath, hresp⟩ := Stop.bind_eq_ok.1 h
  split at hresp
  next hnone =>
    obtain rfl := Except.ok.inj hresp
    exact .inl ⟨nofun, fun ⟨e, he⟩ => nomatch hnone.symm.trans (he.ofPath?_eq hpath)⟩
  next e hendpoint =>
    split at hresp
    next hmethod =>
      obtain rfl := Except.ok.inj hresp
      exact .inr ⟨e, ⟨⟨path, hpath, hendpoint⟩, hmethod⟩, rfl⟩
    next hmethod =>
      obtain rfl := Except.ok.inj hresp
      refine .inl ⟨nofun, fun ⟨e', he⟩ => hmethod ?_⟩
      obtain rfl := Option.some.inj (hendpoint.symm.trans (he.ofPath?_eq hpath))
      exact he.method

/-! ### Answers -/

variable {a : Analyzer} {code : List Char} {language : Option (List Text.Letter)}
  {body : ByteArray}

theorem namesLanguage_iff {e : Endpoint} : e.namesLanguage = true ↔ e = .review := by
  cases e <;> simp [Endpoint.namesLanguage]

theorem analysisOf_eq_some (h : code.length ≤ Text.maxSize) (hint : Option String) :
    analysisOf a (String.ofList code) hint = some (a.analyze code hint) := by
  rw [analysisOf, String.toList_ofList, Analyzer.analyze?_eq_ok a h]
  rfl

theorem perform_eq_rendered (h : code.length ≤ Text.maxSize)
    (hblank : Text.isBlankText (String.ofList code) = false) (time : String) (e : Endpoint) :
    perform (analysisOf a) time e ⟨some (String.ofList code), language⟩ =
      rendered time e language (a.analyze code (language.map Text.mend)) := by
  have hgiven : (some (String.ofList code)).filter (fun s => !Text.isBlankText s) =
      some (String.ofList code) := by rw [Option.filter_some, hblank]; rfl
  rw [perform]
  simp only [hgiven, analysisOf_eq_some h]

/-- The answer to a text that is not blank is what the endpoint makes of its analysis. -/
theorem answer_eq_rendered (h : code.length ≤ Text.maxSize)
    (hbody : Task.read body = .ok ⟨some (String.ofList code), language⟩)
    (hblank : Text.isBlankText (String.ofList code) = false) (time : String) {e : Endpoint}
    (he : e.methods = ["POST"]) : answer (analysisOf a) time e body =
      rendered time e language (a.analyze code (language.map Text.mend)) := by
  have hperform : perform (analysisOf a) time e ⟨some (String.ofList code), language⟩ = _ :=
    perform_eq_rendered h hblank time e
  cases e with
  | health => simp [Endpoint.methods] at he
  | page title => simp [Endpoint.methods] at he
  | review => simpa only [answer, hbody] using hperform
  | quality => simpa only [answer, hbody] using hperform
  | security => simpa only [answer, hbody] using hperform
  | securityReport => simpa only [answer, hbody] using hperform

theorem rendered_of_not {e : Endpoint} (h : ¬ (e = .review ∧ language.any Text.isTorn = true))
    (time : String) (r : Analysis) :
    rendered time e language r = ⟨200, .data (e.render time r)⟩ := by
  rw [← namesLanguage_iff, ← Bool.and_eq_true] at h
  exact if_neg h

theorem status_rendered (time : String) (e : Endpoint) (r : Analysis) :
    (rendered time e language r).status = 500 ↔
      e = .review ∧ language.any Text.isTorn = true := by
  rw [rendered, ← namesLanguage_iff, ← Bool.and_eq_true]
  split
  next htorn => exact iff_of_true rfl htorn
  next hsent => exact iff_of_false nofun hsent

theorem status_answer (h : code.length ≤ Text.maxSize)
    (hbody : Task.read body = .ok ⟨some (String.ofList code), language⟩)
    (hblank : Text.isBlankText (String.ofList code) = false) (time : String) (e : Endpoint) :
    (answer (analysisOf a) time e body).status = 500 ↔
      e = .review ∧ language.any Text.isTorn = true := by
  cases e with
  | health => exact iff_of_false nofun nofun
  | page title => exact iff_of_false nofun nofun
  | review => rw [answer_eq_rendered h hbody hblank time rfl, status_rendered]
  | quality => rw [answer_eq_rendered h hbody hblank time rfl, status_rendered]
  | security => rw [answer_eq_rendered h hbody hblank time rfl, status_rendered]
  | securityReport => rw [answer_eq_rendered h hbody hblank time rfl, status_rendered]

/-- A request with a text that is not blank breaks the service down where its answer is to tell the
name of a language with half of a character, and nowhere else. -/
theorem status_respond (h : code.length ≤ Text.maxSize) {r : Request}
    (hbody : Task.read r.body = .ok ⟨some (String.ofList code), language⟩)
    (hblank : Text.isBlankText (String.ofList code) = false) {time : String} {resp : Response}
    (hresp : respond (analysisOf a) time r = .ok resp) : resp.status = 500 ↔
      r.LeadsTo .review ∧ language.any Text.isTorn = true := by
  rcases leadsTo_of_respond hresp with ⟨hstatus, hnone⟩ | ⟨e, he, rfl⟩
  · exact iff_of_false hstatus fun hreview => hnone ⟨.review, hreview.1⟩
  · rw [status_answer h hbody hblank]
    exact and_congr_left fun _ => ⟨fun hreview => hreview ▸ he, he.unique⟩

/-! ### Languages that are texts -/

theorem any_isTorn_lettersOf (hint : Option String) :
    (hint.map Text.lettersOf).any Text.isTorn = false := by
  cases hint with
  | none => rfl
  | some s => exact Text.isTorn_lettersOf s

theorem map_mend_lettersOf (hint : Option String) :
    (hint.map Text.lettersOf).map Text.mend = hint := by
  cases hint with
  | none => rfl
  | some s => exact congrArg some (Text.mend_lettersOf s)

/-- Where a language is told in whole characters, every answer is that of an analysis in it. -/
theorem answer_eq_render (h : code.length ≤ Text.maxSize) {hint : Option String}
    (hbody : Task.read body = .ok ⟨some (String.ofList code), hint.map Text.lettersOf⟩)
    (hblank : Text.isBlankText (String.ofList code) = false) (time : String) {e : Endpoint}
    (he : e.methods = ["POST"]) :
    answer (analysisOf a) time e body = ⟨200, .data (e.render time (a.analyze code hint))⟩ := by
  have hwhole : ¬ (e = .review ∧ (hint.map Text.lettersOf).any Text.isTorn = true) := by
    rw [any_isTorn_lettersOf]
    exact fun hreview => Bool.false_ne_true hreview.2
  rw [answer_eq_rendered h hbody hblank time he, rendered_of_not hwhole, map_mend_lettersOf]

/-- A request that tells its language in whole characters, if it tells one, does not break the
service down. -/
theorem status_respond_ne (h : code.length ≤ Text.maxSize) {hint : Option String} {r : Request}
    (hbody : Task.read r.body = .ok ⟨some (String.ofList code), hint.map Text.lettersOf⟩)
    (hblank : Text.isBlankText (String.ofList code) = false) {time : String} {resp : Response}
    (hresp : respond (analysisOf a) time r = .ok resp) : resp.status ≠ 500 := by
  intro hstatus
  obtain ⟨-, htorn⟩ := (status_respond h hbody hblank hresp).1 hstatus
  rw [any_isTorn_lettersOf] at htorn
  cases htorn

end Service

/-- An analysis never stops, whatever the rules, the text and what is known about it are. Of its
issues only those that are handed in need not be valid, and what is found stands on a line of the
text. So the service has an answer to every text that is not blank, but for one that has to tell
the name of a language with half of a character. (The texts of rules have whole characters.) -/
theorem analysis_never_stops (a : Analyzer) (code : List Char) (hint path : Option String)
    (extra : List Issue) (hsize : code.length ≤ Text.maxSize) :
    a.analyze? code hint path extra = .ok (a.analyze code hint path extra) ∧
    (∀ i, i ∈ (a.analyze code hint path extra).issues ∨
        i ∈ (a.analyze code hint path extra).quality ∨
        i ∈ (a.analyze code hint path extra).security →
      i ∈ extra ∨ i ∈ a.ruleFindings code hint path ∨ i ∈ a.figureFindings code) ∧
    (∀ i ∈ a.ruleFindings code hint path, i.Valid ∧
      i.line ≤ (a.analyze code hint path extra).metrics.totalLines ∧ Rule.IsPlacedIn code i) ∧
    (∀ i ∈ a.figureFindings code, i.Valid ∧
      i.line ≤ (a.analyze code hint path extra).metrics.totalLines) ∧
    (∀ time e body language, e.methods = ["POST"] →
      Task.read body = .ok ⟨some (String.ofList code), language⟩ →
      Text.isBlankText (String.ofList code) = false →
      ¬ (e = .review ∧ language.any Text.isTorn = true) →
      answer (analysisOf a) time e body =
        ⟨200, .data (e.render time (a.analyze code (language.map Text.mend)))⟩) ∧
    ∀ time r resp language, Task.read r.body = .ok ⟨some (String.ofList code), language⟩ →
      Text.isBlankText (String.ofList code) = false →
      respond (analysisOf a) time r = .ok resp →
      (resp.status = 500 ↔ r.LeadsTo .review ∧ language.any Text.isTorn = true) := by
  rw [totalLines_analyze]
  refine ⟨a.analyze?_eq_ok hsize, ?_, fun i => Analyzer.sound_of_mem_ruleFindings,
    fun i => Analyzer.sound_of_mem_figureFindings, ?_, ?_⟩
  · rintro i (h | h | h)
    · exact Analyzer.mem_findings_of_mem_issues h
    · exact Analyzer.mem_findings_of_mem_quality h
    · exact Analyzer.mem_findings_of_mem_security h
  · intro time e body language he hbody hblank hsent
    rw [Service.answer_eq_rendered hsize hbody hblank time he, Service.rendered_of_not hsent]
  · exact fun time r resp language hbody hblank => Service.status_respond hsize hbody hblank

def letterRule : Rule where
  source := "x"
  pattern := Metrics.pattern "x"
  scope := .single Rule.everyLanguage
  subCategory := "security"
  description := "a letter"

def letterAnalyzer : Analyzer where
  config := {}
  collections := [
    { name := "letters", categories := [.mk "letters" "Letters" .low [letterRule] [] []] }]

/-- Two lines, with the letter on the second one. -/
def letterCode : List Char := "y\r\n x\r".toList

/-- A request to look at the two lines. -/
def letterRequest : Service.Request where
  method := "post"
  address := "http://localhost/review"
  body := "\x7b\"code\": \"y\\r\\n x\\r\"\x7d".toUTF8

/-- A letter is found on the second line of two, and the service has an answer. -/
theorem analysis_never_stops_letter :
    letterCode.length ≤ Text.maxSize ∧
    (letterAnalyzer.ruleFindings letterCode none none).map (fun i => (i.line, i.column)) =
      [(2, 2)] ∧
    letterAnalyzer.analyze? letterCode = .ok (letterAnalyzer.analyze letterCode) ∧
    (∀ i ∈ letterAnalyzer.ruleFindings letterCode none none, i.Valid ∧
      i.line ≤ (letterAnalyzer.analyze letterCode).metrics.totalLines ∧
      Rule.IsPlacedIn letterCode i) ∧
    ∃ resp, respond (analysisOf letterAnalyzer) "" letterRequest = .ok resp ∧
      resp.status ≠ 500 := by
  have hsize : letterCode.length ≤ Text.maxSize := by decide +kernel
  have hbody : Task.read letterRequest.body = .ok ⟨some (String.ofList letterCode), none⟩ :=
    Stop.eq_ok_of_toOption (by decide +kernel)
  have hblank : Text.isBlankText (String.ofList letterCode) = false := by decide +kernel
  have hresp : respond (analysisOf letterAnalyzer) "" letterRequest =
      .ok (answer (analysisOf letterAnalyzer) "" .review letterRequest.body) := by
    rfl
  obtain ⟨hok, -, hrules, -, -, hstatus⟩ :=
    analysis_never_stops letterAnalyzer letterCode none none [] hsize
  refine ⟨hsize, by decide +kernel, hok, hrules, _, hresp, fun hbroken => ?_⟩
  obtain ⟨-, htorn⟩ := (hstatus _ _ _ _ hbody hblank hresp).1 hbroken
  cases htorn

/-- The letter, said to be in a language whose name is half of a character. -/
def tornRequest (path : String) : Service.Request where
  method := "POST"
  address := "http://localhost" ++ path
  body := "\x7b\"code\": \"x\", \"language\": \"\\ud800\"\x7d".toUTF8

/-- The analysis of a text that is not blank is lost where its answer is not sent. -/
theorem respond_tornRequest :
    (Task.read (tornRequest "/review").body).toOption.bind Task.code = some "x" ∧
    letterAnalyzer.analyze? ['x'] "\ufffd" = .ok (letterAnalyzer.analyze ['x'] "\ufffd") ∧
    (respond (analysisOf letterAnalyzer) "" (tornRequest "/review")).toOption.map
      Service.Response.status = some 500 :=
  ⟨by decide +kernel, Analyzer.analyze?_eq_ok _ (by decide +kernel), by decide +kernel⟩

end RuleReview
