import RuleReview.Proofs.Console.Markup
import RuleReview.Proofs.Report.Agreement

/-! Reports on a console, issue by issue. No more characters are printed than the lines of an issue
and of its correction have, so that counting them shows whether the lines are printed as they are.
Proved: they are exactly if no correction holds a tag or a bracket after a backslash, no control
character is hidden and no blank at an end is cut away; then reports that differ in a correction are
told apart. -/

namespace RuleReview.Report

open Console (Lines HasRoom KeepsEnd literal marked visible isHidden)
open Console.Markup (HasCode IsLiteral)

/-! ### Parts that are printed -/

def size (ls : Lines) : Nat := (ls.map String.length).sum

/-- The characters of a part, of which there are none where it is refused. -/
def sizeOf : Except Console.Markup.Error Lines → Nat
  | .ok ls => size ls
  | .error _ => 0

def sizes (parts : List (Except Console.Markup.Error Lines)) : Nat := (parts.map sizeOf).sum

theorem size_append (ls ms : Lines) : size (ls ++ ms) = size ls + size ms := by
  rw [size, List.map_append, List.sum_append, size, size]

theorem sizes_append (ps qs : List (Except Console.Markup.Error Lines)) :
    sizes (ps ++ qs) = sizes ps + sizes qs := by
  rw [sizes, List.map_append, List.sum_append, sizes, sizes]

theorem ofList_map_ok (blocks : List Lines) :
    Printed.ofList (blocks.map .ok) = ⟨blocks.flatten, none⟩ := by
  have hadd (ls : Lines) : (blocks.map .ok).foldl Printed.add ⟨ls, none⟩ =
      ⟨ls ++ blocks.flatten, none⟩ := by
    induction blocks generalizing ls with
    | nil => simp
    | cons block blocks ih =>
      change (blocks.map .ok).foldl Printed.add ⟨ls ++ block, none⟩ = _
      rw [ih, List.flatten_cons, List.append_assoc]
  exact (hadd []).trans (by rw [List.nil_append])

theorem foldl_add_of_refusal (parts : List (Except Console.Markup.Error Lines)) (ls : Lines)
    (e : Console.Markup.Error) : parts.foldl Printed.add ⟨ls, some e⟩ = ⟨ls, some e⟩ := by
  induction parts with
  | nil => rfl
  | cons part parts ih => exact ih

theorem size_of_foldl_add {parts : List (Except Console.Markup.Error Lines)} {before ls : Lines}
    (h : parts.foldl Printed.add ⟨before, none⟩ = ⟨ls, none⟩) :
    size ls = size before + sizes parts := by
  induction parts generalizing before with
  | nil =>
    cases h
    rfl
  | cons part parts ih =>
    cases part with
    | ok block =>
      have hrest : size ls = size (before ++ block) + sizes parts := ih h
      rw [hrest, size_append, Nat.add_assoc]
      rfl
    | error e =>
      have hstopped := (foldl_add_of_refusal parts before e).symm.trans h
      cases hstopped

/-- What is printed without a refusal has the characters of its parts. -/
theorem size_of_printed {parts : List (Except Console.Markup.Error Lines)} {ls : Lines}
    (h : Printed.ofList parts = ⟨ls, none⟩) : size ls = sizes parts :=
  (size_of_foldl_add h).trans (Nat.zero_add _)

/-- Parts that print no more characters than lines have, and exactly where `p` holds these lines. -/
structure PrintsIff (p : Prop) (parts : List (Except Console.Markup.Error Lines)) (ls : Lines) :
    Prop where
  size_le : sizes parts ≤ size ls
  of_size_eq : sizes parts = size ls → p
  blocks : p → ∃ blocks : List Lines, parts = blocks.map .ok ∧ blocks.flatten = ls

namespace PrintsIff

variable {p q : Prop} {ps qs : List (Except Console.Markup.Error Lines)} {ls ms : Lines}

theorem printed_iff (h : PrintsIff p ps ls) : Printed.ofList ps = ⟨ls, none⟩ ↔ p := by
  refine ⟨fun hprinted => h.of_size_eq (size_of_printed hprinted).symm, fun hp => ?_⟩
  obtain ⟨blocks, rfl, rfl⟩ := h.blocks hp
  exact ofList_map_ok blocks

theorem congr (h : PrintsIff p ps ls) (hpq : p ↔ q) : PrintsIff q ps ls := propext hpq ▸ h

theorem nil : PrintsIff True [] [] := ⟨Nat.le_refl _, fun _ => trivial, fun _ => ⟨[], rfl, rfl⟩⟩

theorem block (ls : Lines) : PrintsIff True [.ok ls] ls :=
  ⟨Nat.le_refl _, fun _ => trivial, fun _ => ⟨[ls], rfl, by rw [List.flatten_singleton]⟩⟩

theorem append (h₁ : PrintsIff p ps ls) (h₂ : PrintsIff q qs ms) :
    PrintsIff (p ∧ q) (ps ++ qs) (ls ++ ms) where
  size_le := by
    rw [sizes_append, size_append]
    exact Nat.add_le_add h₁.size_le h₂.size_le
  of_size_eq hsize := by
    have hps := h₁.size_le
    have hqs := h₂.size_le
    rw [sizes_append, size_append] at hsize
    exact ⟨h₁.of_size_eq (by omega), h₂.of_size_eq (by omega)⟩
  blocks hboth := by
    obtain ⟨blocks₁, rfl, rfl⟩ := h₁.blocks hboth.1
    obtain ⟨blocks₂, rfl, rfl⟩ := h₂.blocks hboth.2
    exact ⟨blocks₁ ++ blocks₂, List.map_append.symm, List.flatten_append⟩

theorem flatMap {α : Type} {xs : List α} {holds : α → Prop}
    {parts : α → List (Except Console.Markup.Error Lines)} {lines : α → Lines}
    (h : ∀ x ∈ xs, PrintsIff (holds x) (parts x) (lines x)) :
    PrintsIff (∀ x ∈ xs, holds x) (xs.flatMap parts) (xs.flatMap lines) := by
  induction xs with
  | nil => exact nil.congr (by simp)
  | cons x xs ih =>
    obtain ⟨hx, hxs⟩ := List.forall_mem_cons.1 h
    rw [List.flatMap_cons, List.flatMap_cons]
    exact (hx.append (ih hxs)).congr List.forall_mem_cons.symm

end PrintsIff

/-! ### Texts that are seen -/

/-- A text of which no character is hidden. -/
def IsVisible (s : String) : Prop := ∀ c ∈ s.toList, isHidden c = false

instance (s : String) : Decidable (IsVisible s) :=
  List.decidableBAll (fun c => isHidden c = false) s.toList

theorem isVisible_append {s t : String} : IsVisible (s ++ t) ↔ IsVisible s ∧ IsVisible t := by
  rw [IsVisible, String.toList_append]
  exact List.forall_mem_append

theorem visible_eq_self_iff {s : String} : visible s.toList = s.toList ↔ IsVisible s := by
  rw [visible, List.filter_eq_self, IsVisible]
  simp

theorem Printable.isVisible {s : String} (h : Printable s) : IsVisible s := by
  intro c hc
  simp only [isHidden, Bool.or_eq_false_iff, beq_eq_false_iff_ne]
  refine ⟨⟨⟨⟨?_, ?_⟩, ?_⟩, ?_⟩, ?_⟩ <;>
    · rintro rfl
      exact absurd (h _ hc).1 (by decide)

theorem printable_twoPlaces (x : Rat) : Printable (Decimal.twoPlaces x) := by
  intro c hc
  rcases Decimal.mem_twoPlaces hc with h | rfl
  · simp only [Char.isDigit, Bool.and_eq_true, decide_eq_true_eq] at h
    exact ⟨UInt32.le_trans (by decide) h.1, UInt32.lt_of_le_of_lt h.2 (by decide)⟩
  · decide

/-- A text that has room is printed with its characters that are seen. -/
theorem size_wrap_le {width : Nat} (hwidth : 0 < width) {cs : List Char} (hfeed : '\n' ∉ cs)
    (htab : '\t' ∉ cs) :
    size ((Console.wrap width cs).map String.ofList) ≤ (visible cs).length := by
  have hlength := Console.length_wrap_le hwidth hfeed htab
  rw [size, List.map_map]
  simpa [Function.comp_def] using hlength

section hasRoom

variable {width : Nat} {s : String}

/-- A literal text that has room is printed as it is where all of it is seen and stays. -/
theorem printsIff_literal (hwidth : 0 < width) (h : HasRoom width s) :
    PrintsIff (IsVisible s ∧ KeepsEnd width s) [.ok (literal width s)] [s] := by
  have hsize : size (literal width s) ≤ (visible s.toList).length :=
    size_wrap_le hwidth h.no_feed h.no_tab
  have hseen := Console.visible_sublist s.toList
  have hone : size [s] = s.toList.length := String.length_toList.symm
  refine ⟨?_, fun hall => ?_, fun hholds => ?_⟩
  · rw [hone]
    exact hsize.trans hseen.length_le
  · rw [hone] at hall
    have hvisible := hseen.eq_of_length_le (hall ▸ hsize)
    have hcropped : size (literal width s) = (Console.cropEnd width s.toList).length := by
      rw [literal, Console.wrap_of_hasRoom hwidth h hvisible, List.map_singleton, size,
        List.map_singleton, List.sum_singleton, String.length_ofList]
    have hfront : Console.cropEnd width s.toList <+: s.toList := List.take_prefix ..
    exact ⟨visible_eq_self_iff.1 hvisible,
      Console.cropEnd_eq_self_iff.1 (hfront.eq_of_length (hcropped.symm.trans hall))⟩
  · rw [Console.literal_of_hasRoom hwidth h (visible_eq_self_iff.2 hholds.1) hholds.2]
    exact (PrintsIff.block [s]).blocks trivial

/-- A text with tags that has room, and no codes of pictures, is printed as it is where it holds no
tag and no escape and all of it is seen and stays. -/
theorem printsIff_marked (hwidth : 0 < width) (h : HasRoom width s) (hcodes : ¬HasCode s.toList)
    (hsome : s ≠ "") : PrintsIff (IsLiteral s.toList ∧ IsVisible s ∧ KeepsEnd width s)
      [marked width s] [s] := by
  have hliteral := printsIff_literal hwidth h
  cases hread : Console.Markup.read s with
  | error e =>
    have hrefused : marked width s = .error e := by
      rw [marked, hread]
      rfl
    have hpos : 0 < s.length := Nat.pos_of_ne_zero (mt String.length_eq_zero_iff.1 hsome)
    rw [hrefused]
    refine ⟨Nat.zero_le _, fun hnone => absurd hnone hpos.ne, fun hholds => ?_⟩
    cases hread.symm.trans (Console.Markup.read_of_isLiteral hcodes hholds.1)
  | ok t =>
    obtain ⟨hsubset, hlength, hisLiteral⟩ := Console.Markup.length_le_of_read hcodes hread
    have hprinted : marked width s = .ok ((Console.wrap width t).map String.ofList) := by
      rw [marked, hread]
      rfl
    have hsize : size ((Console.wrap width t).map String.ofList) ≤ t.length :=
      (size_wrap_le hwidth (fun hmem => h.no_feed (hsubset hmem)) fun hmem =>
        h.no_tab (hsubset hmem)).trans (Console.visible_sublist t).length_le
    have hone : size [s] = s.toList.length := String.length_toList.symm
    rw [hprinted]
    refine ⟨?_, fun hall => ?_, fun hholds => ?_⟩
    · rw [hone]
      exact hsize.trans hlength
    · have hsame : size ((Console.wrap width t).map String.ofList) = s.toList.length :=
        Eq.trans hall hone
      have hplain := hisLiteral (hlength.antisymm (hsame ▸ hsize))
      cases hread.symm.trans (Console.Markup.read_of_isLiteral hcodes hplain)
      exact ⟨hplain, hliteral.of_size_eq hall⟩
    · cases hread.symm.trans (Console.Markup.read_of_isLiteral hcodes hholds.1)
      exact hliteral.blocks hholds.2

end hasRoom

/-! ### Lines of an issue -/

/-- The correction that is shown below an issue. -/
def shownFix? (fix : Option String) : Option String := fix.filter (· != "")

def fixLine (fix : String) : String := "     → " ++ fix

def wordLines (i : Issue) : Lines := issueLine i :: (shownFix? i.fix).toList.map fixLine

/-- Whether the lines of an issue have room, and its correction holds no code of a picture. -/
structure Fits (width : Nat) (i : Issue) : Prop where
  issue : HasRoom width (issueLine i)
  fix : ∀ fix ∈ shownFix? i.fix, HasRoom width (fixLine fix) ∧ ¬HasCode fix.toList

/-- Whether the texts of an issue hold nothing that is printed otherwise than it is written. -/
structure IsVerbatim (width : Nat) (i : Issue) : Prop where
  message : IsVisible i.message
  fix : ∀ fix ∈ shownFix? i.fix,
    IsLiteral fix.toList ∧ IsVisible fix ∧ KeepsEnd width (fixLine fix)

/-- The line of an issue is seen as it is if its message is. -/
theorem isVisible_issueLine {i : Issue} : IsVisible (issueLine i) ↔ IsVisible i.message := by
  have hself (s : String) : toString s = s := rfl
  have hseverity : IsVisible i.severity.sign ∧ IsVisible i.severity.name := by
    cases i.severity <;> decide
  have hsigns : IsVisible "  " ∧ IsVisible " " ∧ IsVisible "  (" ∧ IsVisible ":" ∧
      IsVisible ")  " ∧ IsVisible "  [" ∧ IsVisible "]" := by decide
  -- for an equation of the definition the whole line would be evaluated
  delta issueLine
  simp only [hself, isVisible_append, hseverity, hsigns,
    (printable_toString _).isVisible, (printable_twoPlaces _).isVisible, true_and, and_true]

/-- The line of an issue ends with a bracket. -/
theorem keepsEnd_issueLine (width : Nat) (i : Issue) : KeepsEnd width (issueLine i) := by
  right
  delta issueLine
  rw [String.toList_append, List.getLast?_append]
  rfl

theorem isVisible_fixLine {fix : String} : IsVisible (fixLine fix) ↔ IsVisible fix := by
  have harrow : IsVisible "     → " := by decide
  rw [fixLine, isVisible_append, and_iff_right harrow]

theorem isLiteral_fixLine {fix : String} :
    IsLiteral (fixLine fix).toList ↔ IsLiteral fix.toList := by
  rw [fixLine, String.toList_append]
  exact Console.Markup.isLiteral_append_iff (by decide) (by decide) fix.toList

theorem hasCode_fixLine {fix : String} : HasCode (fixLine fix).toList ↔ HasCode fix.toList := by
  rw [fixLine, String.toList_append]
  exact Console.Markup.hasCode_append_iff (by decide) fix.toList

section issue

variable {width : Nat} {i : Issue}

/-- The line of an issue starts with two blanks. -/
theorem Fits.width_pos (h : Fits width i) : 0 < width := by
  have hself (s : String) : toString s = s := rfl
  have hblanks : ∃ rest, (issueLine i).toList = [' ', ' '] ++ rest := by
    delta issueLine
    simp only [hself, String.toList_append, List.append_assoc]
    exact ⟨_, rfl⟩
  obtain ⟨rest, hrest⟩ := hblanks
  have hcells := h.issue.cells_le
  rw [hrest] at hcells
  exact Nat.lt_of_lt_of_le (by decide) ((Text.cells_le_append none [' ', ' '] rest).trans hcells)

/-- The lines of an issue are printed as they are where its texts are read as they are written. -/
theorem Fits.printsIff (h : Fits width i) :
    PrintsIff (IsVerbatim width i) (issueParts width i) (wordLines i) := by
  have hissue := printsIff_literal h.width_pos h.issue
  have hfix := PrintsIff.flatMap fun fix hfix => by
    obtain ⟨hroom, hcodes⟩ := h.fix fix (Option.mem_toList.1 hfix)
    rw [← hasCode_fixLine] at hcodes
    exact printsIff_marked h.width_pos hroom hcodes (by simp [fixLine])
  rw [← List.map_eq_flatMap, ← List.map_eq_flatMap] at hfix
  refine (hissue.append hfix).congr ?_
  rw [isVisible_issueLine, and_iff_left (keepsEnd_issueLine width i)]
  simp only [isLiteral_fixLine, isVisible_fixLine, Option.mem_toList]
  exact ⟨fun hholds => ⟨hholds.1, hholds.2⟩, fun hholds => ⟨hholds.message, hholds.fix⟩⟩

end issue

/-! ### Lines of reports -/

/-- The lines of a report, those of its issues word for word. -/
def reportLines (width : Nat) (r : Report) : Lines :=
  literal width r.titleLine ++ (if r.analysis.issues.isEmpty then
    literal width "  No issues found." else r.analysis.issues.flatMap wordLines) ++
    Console.gap width

def panelLines (width n : Nat) : Lines :=
  Console.panel width s!"CodeSentry v{version} · quality & security analysis"
    s!"Analyzed {n} file(s)"

def wordReports (width : Nat) (rs : List Report) : Lines :=
  panelLines width rs.length ++ (rs.flatMap (reportLines width) ++ figures width rs)

variable {width : Nat} {r : Report} {rs : List Report}

theorem printsIff_report (h : ∀ i ∈ r.analysis.issues, Fits width i) :
    PrintsIff (∀ i ∈ r.analysis.issues, IsVerbatim width i) (reportParts width r)
      (reportLines width r) := by
  have htitle := PrintsIff.block (literal width r.titleLine)
  have hgap := PrintsIff.block (Console.gap width)
  have hissues : PrintsIff (∀ i ∈ r.analysis.issues, IsVerbatim width i)
      (if r.analysis.issues.isEmpty then [.ok (literal width "  No issues found.")]
        else r.analysis.issues.flatMap (issueParts width))
      (if r.analysis.issues.isEmpty then literal width "  No issues found."
        else r.analysis.issues.flatMap wordLines) := by
    by_cases hempty : r.analysis.issues.isEmpty
    · rw [if_pos hempty, if_pos hempty]
      exact (PrintsIff.block _).congr (by simp [List.isEmpty_iff.1 hempty])
    · rw [if_neg hempty, if_neg hempty]
      exact PrintsIff.flatMap fun i hi => (h i hi).printsIff
  exact ((htitle.append hissues).append hgap).congr (by simp)

theorem printed_terminal_iff (h : ∀ i ∈ allIssues rs, Fits width i) :
    terminal width true rs = ⟨wordReports width rs, none⟩ ↔
      ∀ i ∈ allIssues rs, IsVerbatim width i := by
  have hpanel := PrintsIff.block (panelLines width rs.length)
  have hreports := PrintsIff.flatMap fun r hr =>
    printsIff_report fun i hi => h i (List.mem_flatMap.2 ⟨r, hr, hi⟩)
  have hall := hpanel.append (hreports.append (PrintsIff.block (figures width rs)))
  refine (hall.congr ?_).printed_iff
  rw [true_and, and_true, allIssues, List.forall_mem_flatMap]

/-! ### Reports that differ in a correction -/

structure Place where
  before : List Report
  report : Report
  above : List Issue
  issue : Issue
  below : List Issue
  after : List Report

namespace Place

variable (p : Place)

def issueWith (fix : Option String) : Issue := { p.issue with fix }

def reportWith (fix : Option String) : Report :=
  { p.report with analysis := { p.report.analysis with
    issues := p.above ++ p.issueWith fix :: p.below } }

/-- The reports, with a correction at the place. -/
def fill (fix : Option String) : List Report := p.before ++ p.reportWith fix :: p.after

end Place

theorem figures_congr {rs' : List Report}
    (h : (allIssues rs).map (·.severity) = (allIssues rs').map (·.severity)) :
    figures width rs = figures width rs' := by
  have hlength := congrArg List.length h
  rw [List.length_map, List.length_map] at hlength
  have hcount (s : Severity) :
      Issue.countOf s (allIssues rs) = Issue.countOf s (allIssues rs') := by
    have hmapped := congrArg (List.countP (· == s)) h
    rwa [List.countP_map, List.countP_map] at hmapped
  rw [figures, figures, hlength, Issue.breakdown, Issue.breakdown]
  simp only [hcount]

namespace Place

variable (p : Place) (fix : Option String)

theorem isEmpty_issues_reportWith : ¬(p.reportWith fix).analysis.issues.isEmpty := by
  simp [reportWith]

theorem reportLines_reportWith : reportLines width (p.reportWith fix) =
    literal width p.report.titleLine ++ (p.above.flatMap wordLines ++ (issueLine p.issue ::
      ((shownFix? fix).toList.map fixLine ++ p.below.flatMap wordLines)) ++ Console.gap width) := by
  rw [reportLines, if_neg (p.isEmpty_issues_reportWith fix), reportWith, List.flatMap_append,
    List.flatMap_cons, List.append_assoc]
  rfl

theorem reportParts_reportWith : reportParts width (p.reportWith fix) =
    .ok (literal width p.report.titleLine) :: (p.above.flatMap (issueParts width) ++
      (issueParts width (p.issueWith fix) ++ p.below.flatMap (issueParts width))) ++
      [.ok (Console.gap width)] := by
  rw [reportParts, if_neg (p.isEmpty_issues_reportWith fix), reportWith, List.flatMap_append,
    List.flatMap_cons]
  rfl

theorem figures_fill (fix' : Option String) :
    figures width (p.fill fix) = figures width (p.fill fix') := by
  refine figures_congr ?_
  simp only [allIssues, fill, reportWith, issueWith, List.flatMap_append, List.flatMap_cons,
    List.map_append, List.map_cons]

/-- Corrections of which the same is printed do not tell reports apart. -/
theorem terminal_fill_congr {fix fix' : Option String}
    (h : issueParts width (p.issueWith fix) = issueParts width (p.issueWith fix')) :
    terminal width true (p.fill fix) = terminal width true (p.fill fix') := by
  have hlength : (p.fill fix).length = (p.fill fix').length := by
    rw [fill, fill, List.length_append, List.length_append, List.length_cons, List.length_cons]
  have hparts : (p.fill fix).flatMap (reportParts width) =
      (p.fill fix').flatMap (reportParts width) := by
    rw [fill, fill, List.flatMap_append, List.flatMap_append, List.flatMap_cons, List.flatMap_cons,
      reportParts_reportWith, reportParts_reportWith, h]
  rw [terminal, terminal, p.figures_fill fix fix', hlength, hparts]

/-- The lines around that of a correction are the same for each correction. -/
theorem wordReports_fill (width : Nat) : ∃ above below : Lines, ∀ fix,
    wordReports width (p.fill fix) = above ++ ((shownFix? fix).toList.map fixLine ++ below) := by
  refine ⟨panelLines width (p.before.length + (p.after.length + 1)) ++
      (p.before.flatMap (reportLines width) ++ (literal width p.report.titleLine ++
        (p.above.flatMap wordLines ++ [issueLine p.issue]))),
    p.below.flatMap wordLines ++ (Console.gap width ++
      (p.after.flatMap (reportLines width) ++ figures width (p.fill none))), fun fix => ?_⟩
  rw [wordReports, p.figures_fill fix none, fill, List.flatMap_append, List.flatMap_cons,
    reportLines_reportWith, List.length_append, List.length_cons]
  simp only [List.append_assoc, List.cons_append, List.nil_append]

end Place

theorem fixLine_inj {fix fix' : String} : fixLine fix = fixLine fix' ↔ fix = fix' := by
  rw [fixLine, fixLine, ← String.toList_inj, ← String.toList_inj, String.toList_append,
    String.toList_append, List.append_cancel_left_eq]

/-- Reports are told apart by a correction that is shown. -/
theorem Place.shownFix?_eq_of_wordReports_eq {p : Place} {fix fix' : Option String}
    (h : wordReports width (p.fill fix) = wordReports width (p.fill fix')) :
    shownFix? fix = shownFix? fix' := by
  obtain ⟨above, below, hlines⟩ := p.wordReports_fill width
  rw [hlines, hlines, List.append_right_inj, List.append_left_inj] at h
  cases hfix : shownFix? fix <;> cases hfix' : shownFix? fix' <;>
    simp_all [fixLine_inj]

/-- Reports are printed word for word exactly if nothing in the texts of their issues is read
otherwise than it is written, and then a correction tells them apart. -/
theorem terminal_verbatim_iff (hfits : ∀ i ∈ allIssues rs, Fits width i) :
    (terminal width true rs = ⟨wordReports width rs, none⟩ ↔
      ∀ i ∈ allIssues rs, IsVerbatim width i) ∧
    ∀ (p : Place) (fix fix' : Option String), rs = p.fill fix → shownFix? fix ≠ shownFix? fix' →
      (∀ i ∈ allIssues rs, IsVerbatim width i) →
      (∀ i ∈ allIssues (p.fill fix'), Fits width i ∧ IsVerbatim width i) →
      (terminal width true rs).lines ≠ (terminal width true (p.fill fix')).lines := by
  have hprinted := printed_terminal_iff hfits
  refine ⟨hprinted, ?_⟩
  rintro p fix fix' rfl hne hverbatim hother hlines
  have hprinted' := (printed_terminal_iff fun i hi => (hother i hi).1).2 fun i hi => (hother i hi).2
  rw [hprinted.2 hverbatim, hprinted'] at hlines
  exact hne (Place.shownFix?_eq_of_wordReports_eq hlines)

def secondIssue : Place where
  before := []
  report := reportOf "a.py" []
  above := [issueAt 1 .quality .high]
  issue := issueAt 2 .security .low
  below := []
  after := [reportOf "b.py" []]

theorem forall_secondIssue {holds : Issue → Prop} {fix : Option String} :
    (∀ i ∈ allIssues (secondIssue.fill fix), holds i) ↔
      holds (issueAt 1 .quality .high) ∧ holds (secondIssue.issueWith fix) :=
  List.forall_mem_cons.trans (and_congr_right' List.forall_mem_singleton)

theorem fits_secondIssue {fix : String} (hroom : HasRoom 80 (fixLine fix)) (h : ':' ∉ fix.toList) :
    ∀ i ∈ allIssues (secondIssue.fill (some fix)), Fits 80 i := by
  refine forall_secondIssue.2 ⟨⟨by decide +kernel, nofun⟩, ⟨?_, fun shown hshown => ?_⟩⟩
  · change HasRoom 80 (issueLine (issueAt 2 .security .low))
    decide +kernel
  · obtain rfl := Option.some.inj (Option.filter_eq_some_iff.1 hshown).1
    exact ⟨hroom, Console.Markup.not_hasCode_of_notMem h⟩

theorem verbatim_secondIssue {fix : String}
    (h : IsLiteral fix.toList ∧ IsVisible fix ∧ KeepsEnd 80 (fixLine fix)) :
    ∀ i ∈ allIssues (secondIssue.fill (some fix)), IsVerbatim 80 i := by
  have hmessage : IsVisible (issueAt 1 .quality .high).message := by decide
  refine forall_secondIssue.2 ⟨⟨hmessage, nofun⟩, ⟨hmessage, fun shown hshown => ?_⟩⟩
  obtain rfl := Option.some.inj (Option.filter_eq_some_iff.1 hshown).1
  exact h

theorem terminal_verbatim_iff_secondIssue :
    (∀ i ∈ allIssues (secondIssue.fill (some "rows[0] -> Dict[Str]")), Fits 80 i) ∧
    terminal 80 true (secondIssue.fill (some "rows[0] -> Dict[Str]")) =
      ⟨wordReports 80 (secondIssue.fill (some "rows[0] -> Dict[Str]")), none⟩ ∧
    (terminal 80 true (secondIssue.fill (some "rows[0] -> Dict[Str]"))).lines ≠
      (terminal 80 true (secondIssue.fill (some "rows[0] -> Dict"))).lines := by
  have hfits : ∀ i ∈ allIssues (secondIssue.fill (some "rows[0] -> Dict[Str]")), Fits 80 i :=
    fits_secondIssue (by decide +kernel) (by decide +kernel)
  have hother : ∀ i ∈ allIssues (secondIssue.fill (some "rows[0] -> Dict")), Fits 80 i :=
    fits_secondIssue (by decide +kernel) (by decide +kernel)
  have hverbatim : ∀ i ∈ allIssues (secondIssue.fill (some "rows[0] -> Dict[Str]")),
      IsVerbatim 80 i :=
    verbatim_secondIssue (by decide +kernel)
  have hother' : ∀ i ∈ allIssues (secondIssue.fill (some "rows[0] -> Dict")), IsVerbatim 80 i :=
    verbatim_secondIssue (by decide +kernel)
  obtain ⟨hprinted, hapart⟩ := terminal_verbatim_iff hfits
  exact ⟨hfits, hprinted.2 hverbatim, hapart secondIssue _ _ rfl (by decide) hverbatim
    fun i hi => ⟨hother i hi, hother' i hi⟩⟩

/-- A correction with an index is printed as if it had none, and an end of a tag is refused. -/
theorem terminal_bracketedFix :
    (∀ i ∈ allIssues (secondIssue.fill (some "Use rows[i]")), Fits 80 i) ∧
    terminal 80 true (secondIssue.fill (some "Use rows[i]")) =
      terminal 80 true (secondIssue.fill (some "Use rows")) ∧
    (∀ i ∈ allIssues (secondIssue.fill (some "[/]")), Fits 80 i) ∧
    (terminal 80 true (secondIssue.fill (some "[/]"))).refusal.isSome := by
  have htagged : Console.Markup.read (fixLine "Use rows[i]") = .ok (fixLine "Use rows").toList := by
    decide +kernel
  have hplain : Console.Markup.read (fixLine "Use rows") = .ok (fixLine "Use rows").toList := by
    decide +kernel
  have hmarked : marked 80 (fixLine "Use rows[i]") = marked 80 (fixLine "Use rows") := by
    rw [marked, marked, htagged, hplain]
  have hissue := congrArg ([.ok (literal 80 (issueLine secondIssue.issue)), ·]) hmarked
  exact ⟨fits_secondIssue (by decide +kernel) (by decide +kernel),
    Place.terminal_fill_congr secondIssue hissue,
    fits_secondIssue (by decide +kernel) (by decide +kernel), by decide +kernel⟩

end RuleReview.Report
