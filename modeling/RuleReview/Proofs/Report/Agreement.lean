import RuleReview.Proofs.Analyzer.Gate
import RuleReview.Proofs.Console.Print
import RuleReview.Proofs.Report.Record
import RuleReview.Proofs.Service.Answer
import RuleReview.Report.Markdown
import RuleReview.Report.Terminal

/-! The renderings of reports agree. Numbers of issues add up over lists of issues, so the sums of
the numbers that the envelopes tell are those of all issues, which the table and the console
tell. -/

namespace RuleReview

/-! ### Numbers of issues -/

namespace Issue.Breakdown

instance : Zero Breakdown := ⟨{}⟩

instance : Add Breakdown :=
  ⟨fun a b => ⟨a.critical + b.critical, a.high + b.high, a.medium + b.medium, a.low + b.low⟩⟩

end Issue.Breakdown

theorem Issue.breakdown_append (xs ys : List Issue) :
    breakdown (xs ++ ys) = breakdown xs + breakdown ys := by
  simp only [breakdown, countOf, List.countP_append]
  rfl

namespace Report

/-- How many issues there are, of each kind and of each severity. -/
structure Figures where
  total : Nat := 0
  quality : Nat := 0
  security : Nat := 0
  bySeverity : Issue.Breakdown := {}

namespace Figures

instance : Zero Figures := ⟨{}⟩

instance : Add Figures :=
  ⟨fun f g => ⟨f.total + g.total, f.quality + g.quality, f.security + g.security,
    f.bySeverity + g.bySeverity⟩⟩

def ofIssues (is : List Issue) : Figures :=
  ⟨is.length, countKind .quality is, countKind .security is, Issue.breakdown is⟩

def read? (envelope : Data) : Option Figures := do
  let total ← envelope.natural? ["summary", "total_issues"]
  let quality ← envelope.natural? ["summary", "quality_issues"]
  let security ← envelope.natural? ["summary", "security_issues"]
  let bySeverity ← breakdown? ["summary", "by_severity"] envelope
  return { total, quality, security, bySeverity }

theorem read?_envelope (a : Analysis) : read? (.object (envelope a)) = some (ofIssues a.issues) :=
  rfl

theorem ofIssues_append (xs ys : List Issue) :
    ofIssues (xs ++ ys) = ofIssues xs + ofIssues ys := by
  simp only [ofIssues, List.length_append, countKind, List.countP_append, Issue.breakdown_append]
  rfl

/-- The figures of lists of issues add up. -/
theorem sum_map_ofIssues (lists : List (List Issue)) :
    (lists.map ofIssues).sum = ofIssues lists.flatten := by
  induction lists with
  | nil => rfl
  | cons is lists ih => rw [List.map_cons, List.sum_cons, ih, List.flatten_cons, ofIssues_append]

/-- Issues that are each about quality or about security. -/
theorem quality_add_security {is : List Issue}
    (h : ∀ i ∈ is, i.kind = .quality ∨ i.kind = .security) :
    (ofIssues is).quality + (ofIssues is).security = is.length := by
  induction is with
  | nil => rfl
  | cons i is ih =>
    obtain ⟨hi, his⟩ := List.forall_mem_cons.1 h
    have hrest := ih his
    simp only [ofIssues, countKind, List.countP_cons, List.length_cons] at hrest ⊢
    rcases hi with hi | hi <;>
      · simp only [hi, beq_self_eq_true, if_true, reduceCtorEq, beq_iff_eq, if_false]
        omega

end Figures

/-! ### Envelopes -/

/-- Whether an envelope is about some issues: it has their records in order, and its figures are the
number of records, by kind and by severity. -/
structure Describes (e : Data) (is : List Issue) : Prop where
  records : e.get? "issues" = some (.list (is.map fun i => .object (issueRecord i)))
  figures : ∃ f, Figures.read? e = some f ∧ f.total = is.length ∧
    f.quality + f.security = f.total ∧ f.bySeverity.sum = f.total

theorem describes_envelope {a : Analysis}
    (h : ∀ i ∈ a.issues, i.kind = .quality ∨ i.kind = .security) :
    Describes (.object (envelope a)) a.issues where
  records := rfl
  figures := ⟨_, Figures.read?_envelope a, rfl, Figures.quality_add_security h,
    Issue.sum_breakdown a.issues⟩

/-- The envelopes of reports. -/
def envelopes (rs : List Report) : List Data := rs.map fun r => .object (envelope r.analysis)

def underPath (path : String) (d : Data) : Data :=
  .object (("path", .text path) :: d.members?.getD [])

theorem envelopes_of_length_eq_one {rs : List Report} (h : rs.length = 1) :
    envelopes rs = [toData rs] := by
  obtain ⟨r, rfl⟩ := List.length_eq_one_iff.1 h
  rfl

theorem files_toData {rs : List Report} (h : rs.length ≠ 1) :
    (toData rs).get? "files" = some (.list
      (List.zipWith (fun r e => underPath r.path e) rs (envelopes rs))) := by
  have hfiles : List.zipWith (fun r e => underPath r.path e) rs (envelopes rs) =
      rs.map fun r => .object (("path", .text r.path) :: envelope r.analysis) := by
    rw [envelopes, List.zipWith_map_right, List.zipWith_self]
    rfl
  rw [hfiles]
  match rs, h with
  | [], _ => rfl
  | [_], h => exact absurd rfl h
  | _ :: _ :: _, _ => rfl

theorem mapM_read?_envelopes (rs : List Report) :
    (envelopes rs).mapM Figures.read? =
      some (rs.map fun r => Figures.ofIssues r.analysis.issues) := by
  induction rs with
  | nil => rfl
  | cons r rs ih =>
    rw [envelopes, List.map_cons, List.mapM_cons, ← envelopes, ih, Figures.read?_envelope]
    rfl

theorem sum_read?_envelopes (rs : List Report) :
    ((envelopes rs).mapM Figures.read?).map List.sum =
      some (Figures.ofIssues (allIssues rs)) := by
  have hsum := Figures.sum_map_ofIssues (rs.map (·.analysis.issues))
  rw [List.map_map] at hsum
  rw [mapM_read?_envelopes, Option.map_some, allIssues, List.flatMap_def, ← hsum]
  rfl

/-! ### Lines of a table -/

theorem rows_intercalate {ls rest : List String} (h : ∀ l ∈ ls, '\n' ∉ l.toList)
    (hrest : rest ≠ []) :
    Text.rows ("\n".intercalate (ls ++ rest)).toList =
      ls.map String.toList ++ Text.rows ("\n".intercalate rest).toList := by
  induction ls with
  | nil => rfl
  | cons l ls ih =>
    obtain ⟨hl, hls⟩ := List.forall_mem_cons.1 h
    have hne : ls ++ rest ≠ [] := List.append_ne_nil_of_right_ne_nil ls hrest
    have hstart : ("\n".intercalate (l :: (ls ++ rest))).toList =
        l.toList ++ '\n' :: ("\n".intercalate (ls ++ rest)).toList := by
      rw [String.intercalate_cons_of_ne_nil hne]
      simp
    rw [List.cons_append, hstart, Text.rows, Text.splitOn_append hl, ← Text.rows, ih hls]
    rfl

/-! ### Texts of figures -/

/-- A text of blanks, digits, letters and signs of the first 128 characters. -/
def Printable (s : String) : Prop := ∀ c ∈ s.toList, 0x20 ≤ c.val ∧ c.val < 0x7f

instance (s : String) : Decidable (Printable s) :=
  List.decidableBAll (fun c : Char => 0x20 ≤ c.val ∧ c.val < 0x7f) s.toList

theorem printable_append {s t : String} : Printable (s ++ t) ↔ Printable s ∧ Printable t := by
  rw [Printable, String.toList_append]
  exact List.forall_mem_append

theorem printable_toString (n : Nat) : Printable (toString n) := by
  intro c hc
  rw [Decimal.toList_toString_nat] at hc
  have hdigit := Decimal.isDigit_of_mem_digits hc
  simp only [Char.isDigit, Bool.and_eq_true, decide_eq_true_eq] at hdigit
  exact ⟨UInt32.le_trans (by decide) hdigit.1, UInt32.lt_of_le_of_lt hdigit.2 (by decide)⟩

theorem Printable.newline_notMem {s : String} (h : Printable s) : '\n' ∉ s.toList := fun hmem =>
  absurd (h _ hmem) (by decide)

theorem Printable.oneCell {s : String} (h : Printable s) : Text.OneCell s.toList := by
  intro c hc
  rw [Text.cellsOf, if_pos]
  simpa using h c hc

theorem line_eq (gap : String) (b : Issue.Breakdown) :
    b.line gap = "critical=" ++ toString b.critical ++ gap ++ ("high=" ++ toString b.high ++ gap ++
      ("medium=" ++ toString b.medium ++ gap ++ ("low=" ++ toString b.low))) := by
  have hself (s : String) : toString s = s := rfl
  rw [Issue.Breakdown.line, String.intercalate_cons_cons, String.intercalate_cons_cons,
    String.intercalate_cons_cons, String.intercalate_singleton]
  simp only [hself]

theorem printable_line {gap : String} (hgap : Printable gap) (b : Issue.Breakdown) :
    Printable (b.line gap) := by
  have hlabels : Printable "critical=" ∧ Printable "high=" ∧ Printable "medium=" ∧
      Printable "low=" := by decide
  simp only [line_eq, printable_append, hgap, printable_toString, hlabels, and_self]

theorem printable_heading {rs : List Report} {l : String} (h : l ∈ heading rs) : Printable l := by
  simp only [heading, List.mem_cons, List.not_mem_nil, or_false] at h
  rcases h with rfl | rfl | rfl | rfl | rfl | rfl | rfl | rfl
  · decide
  · decide
  · exact printable_append.2 ⟨by decide, printable_toString _⟩
  · exact printable_append.2 ⟨by decide, printable_toString _⟩
  · exact printable_append.2 ⟨by decide, printable_line (by decide) _⟩
  · decide
  · decide
  · decide

/-- The lines above the table, then those of the table. -/
theorem rows_markdown (rs : List Report) : Text.rows (markdown rs).toList =
    (heading rs).map String.toList ++
      Text.rows ("\n".intercalate (table rs ++ [""])).toList := by
  rw [markdown, List.append_assoc, rows_intercalate
    (fun l hl => (printable_heading hl).newline_notMem) (by simp)]

/-! ### Lines of a console -/

/-- What is printed above the figures. -/
def header (width : Nat) (rs : List Report) : Console.Lines :=
  Console.panel width s!"CodeSentry v{version} · quality & security analysis"
    s!"Analyzed {rs.length} file(s)"

def Figures.consoleLines (f : Figures) : List String :=
  [separator, s!"Issues: {f.total}", f.bySeverity.line " ", separator]

theorem oneCell_consoleLines {f : Figures} {l : String} (h : l ∈ f.consoleLines) :
    Text.OneCell l.toList := by
  have hseparator : Text.OneCell separator.toList := by
    intro c hc
    rw [separator, String.toList_ofList, Console.dashes] at hc
    rw [(List.mem_replicate.1 hc).2]
    decide +kernel
  simp only [Figures.consoleLines, List.mem_cons, List.not_mem_nil, or_false] at h
  rcases h with rfl | rfl | rfl | rfl
  · exact hseparator
  · exact Printable.oneCell (printable_append.2 ⟨by decide, printable_toString _⟩)
  · exact (printable_line (by decide) _).oneCell
  · exact hseparator

theorem terminal_summary (width : Nat) (rs : List Report) :
    (terminal width false rs).refusal = none ∧
    (terminal width false rs).lines = header width rs ++
      (Figures.ofIssues (allIssues rs)).consoleLines.flatMap (Console.literal width) := ⟨rfl, rfl⟩

/-- The renderings of reports whose issues are about quality or security. The value that is written
holds an envelope for each report, which tells of the issues of the report. What the envelopes tell
adds up to the figures in the table and on a console. There a line that has no room is broken, which
takes away no character that is seen. -/
theorem renderings_agree (rs : List Report)
    (hkinds : ∀ i ∈ allIssues rs, i.kind = .quality ∨ i.kind = .security) :
    json rs = Json.pretty (toData rs) ∧
    (rs.length = 1 → envelopes rs = [toData rs]) ∧
    (rs.length ≠ 1 → (toData rs).get? "files" = some (.list
      (List.zipWith (fun r e => underPath r.path e) rs (envelopes rs)))) ∧
    List.Forall₂ (fun r e => Describes e r.analysis.issues) rs (envelopes rs) ∧
    ∃ all, ((envelopes rs).mapM Figures.read?).map List.sum = some all ∧
      (Text.rows (markdown rs).toList)[3]? = some s!"- Findings: {all.total}".toList ∧
      (Text.rows (markdown rs).toList)[4]? =
        some ("- By severity: " ++ all.bySeverity.line ", ").toList ∧
      ∀ width, (terminal width false rs).refusal = none ∧
        ∃ summary, (terminal width false rs).lines = header width rs ++ summary ∧
          (0 < width → Console.seen summary = Console.seen all.consoleLines) ∧
          ((∀ l ∈ all.consoleLines, l.length ≤ width) → summary = all.consoleLines) := by
  refine ⟨rfl, envelopes_of_length_eq_one, files_toData, ?_, _, sum_read?_envelopes rs, ?_⟩
  · rw [envelopes, List.forall₂_map_right_iff, List.forall₂_same]
    exact fun r hr => describes_envelope fun i hi => hkinds i (List.mem_flatMap.2 ⟨r, hr, hi⟩)
  have hrows := rows_markdown rs
  refine ⟨by rw [hrows]; rfl, by rw [hrows]; rfl, fun width => ?_⟩
  obtain ⟨hrefusal, hlines⟩ := terminal_summary width rs
  have hcells : ∀ l ∈ (Figures.ofIssues (allIssues rs)).consoleLines, Text.OneCell l.toList :=
    fun l hl => oneCell_consoleLines hl
  refine ⟨hrefusal, _, hlines, fun hwidth => Console.seen_flatMap_literal hwidth hcells,
    fun hroom => ?_⟩
  have hseparator : 60 ≤ width := by
    have hlength := hroom separator List.mem_cons_self
    rwa [separator, String.length_ofList, Console.dashes, List.length_replicate] at hlength
  exact Console.flatMap_literal_eq_self (by omega) hcells hroom

def issueAt (line : Nat) (kind : Issue.Kind) (severity : Severity) : Issue where
  source := "rules"
  category := "Letters"
  severity := severity
  line := line
  column := 1
  message := "a letter"
  confidence := 1 / 2
  kind := kind

/-- A report about a text without a character, with some issues. -/
def reportOf (path : String) (is : List Issue) : Report :=
  ⟨path, { letterAnalyzer.analyze [] with issues := is }⟩

/-- Reports with issues of both kinds, the last one of them without issues. -/
def threeReports : List Report := [
  reportOf "a.py" [issueAt 1 .security .critical, issueAt 2 .quality .high],
  reportOf "b.py" [issueAt 1 .quality .low], reportOf "c.py" []]

/-- Three issues in three files. -/
theorem renderings_agree_threeReports :
    (∀ i ∈ allIssues threeReports, i.kind = .quality ∨ i.kind = .security) ∧
    ((envelopes threeReports).mapM Figures.read?).map List.sum =
      some ⟨3, 2, 1, { critical := 1, high := 1, low := 1 }⟩ ∧
    (Text.rows (markdown threeReports).toList)[3]? = some "- Findings: 3".toList ∧
    (Text.rows (markdown threeReports).toList)[4]? =
      some "- By severity: critical=1, high=1, medium=0, low=1".toList ∧
    (terminal 80 false threeReports).lines = header 80 threeReports ++
      [separator, "Issues: 3", "critical=1 high=1 medium=0 low=1", separator] := by
  have hkinds : ∀ i ∈ allIssues threeReports, i.kind = .quality ∨ i.kind = .security := by
    decide +kernel
  obtain ⟨-, -, -, -, all, hall, htotal, hseverities, hconsole⟩ :=
    renderings_agree threeReports hkinds
  have hfigures : ((envelopes threeReports).mapM Figures.read?).map List.sum =
      some ⟨3, 2, 1, { critical := 1, high := 1, low := 1 }⟩ := rfl
  obtain rfl := Option.some.inj (hall.symm.trans hfigures)
  obtain ⟨-, summary, hlines, -, hroom⟩ := hconsole 80
  refine ⟨hkinds, hfigures, htotal, hseverities, ?_⟩
  rw [hlines, hroom (by decide +kernel)]
  rfl

end Report

end RuleReview
