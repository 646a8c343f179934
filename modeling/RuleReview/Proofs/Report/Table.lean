import RuleReview.Proofs.Report.Agreement
import RuleReview.Proofs.Text.Bars

/-! The table of reports is read back. A row is put together from marked texts, so its open bars
are those around its cells, and a cell without its marks is the text that was put there. Proved:
the lines below the head of the table are the rows of the issues, in order, and each of them has
seven cells that tell the issue. -/

namespace RuleReview.Report

open Text (openBars parts mark unmark)

/-! ### Rows -/

section row

variable {cells : List String} {xs : List (List Char)}

/-- A row is a bar and, for each cell, a blank, the cell, a blank and a bar. -/
theorem toList_row (h : cells ≠ []) :
    (row cells).toList = '|' :: cells.flatMap fun c => ' ' :: (c.toList ++ [' ', '|']) := by
  induction cells with
  | nil => exact absurd rfl h
  | cons c cells ih =>
    cases cells with
    | nil => simp [row]
    | cons d cells =>
      have hrest := ih (List.cons_ne_nil d cells)
      rw [row, String.toList_append, String.toList_append] at hrest
      rw [row, String.intercalate_cons_cons]
      simpa using hrest

/-- Around each of its cells a row has an open bar. -/
theorem openBars_row (h : cells ≠ []) : openBars (row cells).toList =
    cells.length + 1 + (cells.map fun c => openBars c.toList).sum := by
  have hcells : openBars (cells.flatMap fun c => ' ' :: (c.toList ++ [' ', '|'])) =
      cells.length + (cells.map fun c => openBars c.toList).sum := by
    clear h
    induction cells with
    | nil => rfl
    | cons c cells ih =>
      rw [List.flatMap_cons, List.cons_append, Text.openBars_blank_cons, List.append_assoc,
        List.cons_append, Text.openBars_append_blank, List.singleton_append,
        Text.openBars_bar_cons, ih, List.length_cons, List.map_cons, List.sum_cons]
      omega
  rw [toList_row h, Text.openBars_bar_cons, hcells]
  omega

/-- The cells of a row: what stands between its open bars, without the blanks at the ends. -/
def cellsOf (line : List Char) : List (List Char) := ((parts line).drop 1).dropLast.map Text.trim

theorem parts_row (h : cells ≠ []) (hcells : ∀ c ∈ cells, openBars c.toList = 0) :
    parts (row cells).toList = [] :: (cells.map fun c => ' ' :: (c.toList ++ [' '])) ++ [[]] := by
  have hparts : parts (cells.flatMap fun c => ' ' :: (c.toList ++ [' ', '|'])) =
      (cells.map fun c => ' ' :: (c.toList ++ [' '])) ++ [[]] := by
    clear h
    induction cells with
    | nil => rfl
    | cons c cells ih =>
      obtain ⟨hc, hcells⟩ := List.forall_mem_cons.1 hcells
      have hfirst := Text.parts_append_blank ((Text.openBars_blank_cons c.toList).trans hc)
        (cells.flatMap fun c => ' ' :: (c.toList ++ [' ', '|']))
      rw [ih hcells] at hfirst
      simpa using hfirst
  rw [toList_row h, List.cons_append, ← hparts]
  rfl

theorem exists_mark_of_mem (hcells : cells.map String.toList = xs.map mark) {c : String}
    (hc : c ∈ cells) : ∃ x ∈ xs, c.toList = mark x := by
  obtain ⟨x, hx, hmark⟩ := List.mem_map.1 (hcells ▸ List.mem_map_of_mem hc)
  exact ⟨x, hx, hmark.symm⟩

/-- A row of marked texts is read back. -/
theorem row_of_marked (h : xs ≠ []) (hxs : ∀ x ∈ xs, Text.trim x = x)
    (hcells : cells.map String.toList = xs.map mark) :
    openBars (row cells).toList = xs.length + 1 ∧
      (cellsOf (row cells).toList).map unmark = xs := by
  have hne : cells ≠ [] := by
    rintro rfl
    exact h (List.map_eq_nil_iff.1 hcells.symm)
  have hclosed : ∀ c ∈ cells, openBars c.toList = 0 := by
    intro c hc
    obtain ⟨x, -, hx⟩ := exists_mark_of_mem hcells hc
    rw [hx, Text.openBars_mark]
  have hlength : cells.length = xs.length := by simpa using congrArg List.length hcells
  refine ⟨?_, ?_⟩
  · have hsum : (cells.map fun c => openBars c.toList).sum = 0 :=
      List.sum_eq_zero (by simpa using hclosed)
    rw [openBars_row hne, hsum, hlength, Nat.add_zero]
  · have hparts : cellsOf (row cells).toList = cells.map fun c => Text.trim c.toList := by
      have hblank : Text.isBlank ' ' = true := by decide
      rw [cellsOf, parts_row hne hclosed]
      simp [Function.comp_def, Text.trim_blank_cons hblank, Text.trim_concat hblank]
    calc (cellsOf (row cells).toList).map unmark
        = ((cells.map String.toList).map Text.trim).map unmark := by
          rw [hparts, List.map_map (f := String.toList)]
          rfl
      _ = xs.map fun x => unmark (Text.trim (mark x)) := by
          rw [hcells, List.map_map, List.map_map]
          rfl
      _ = xs.map fun x => x := List.map_congr_left fun x hx => by
          rw [Text.trim_mark, hxs x hx, Text.unmark_mark]
      _ = xs := List.map_id' xs

theorem newline_notMem_row (hcells : cells.map String.toList = xs.map mark)
    (hxs : ∀ x ∈ xs, '\n' ∉ x) : '\n' ∉ (row cells).toList := by
  have hsep : ∀ c ∈ cells, '\n' ∉ c.toList := by
    intro c hc hmem
    obtain ⟨x, hx, hmark⟩ := exists_mark_of_mem hcells hc
    rcases Text.mem_mark (hmark ▸ hmem) with h | h
    · cases h
    · exact hxs x hx h
  intro hmem
  cases cells with
  | nil => exact absurd hmem (by decide)
  | cons c cells =>
    rw [toList_row (List.cons_ne_nil c cells)] at hmem
    obtain ⟨d, hd, hin⟩ := List.mem_flatMap.1 (List.mem_of_ne_of_mem (by decide) hmem)
    simp [hsep d hd] at hin

end row

/-! ### Issues in rows -/

/-- A text in one line, without the blanks at its ends. -/
def flat (s : String) : List Char := Text.trim (s.toList.map fun c => if c = '\n' then ' ' else c)

theorem toList_cell (s : String) : (cell s).toList = mark (flat s) := by
  have hescape (cs : List Char) :
      escapeCell cs = mark (cs.map fun c => if c = '\n' then ' ' else c) := by
    rw [escapeCell, mark, List.flatMap_map]
    refine List.flatMap_congr fun c _ => ?_
    by_cases hslash : c = '\\'
    · simp [hslash, Text.needsMark]
    by_cases hbar : c = '|'
    · simp [hbar, Text.needsMark]
    by_cases hline : c = '\n' <;> simp [hslash, hbar, hline, Text.needsMark]
  rw [cell, String.toList_ofList, hescape, Text.trim_mark, flat]

theorem trim_flat (s : String) : Text.trim (flat s) = flat s := Text.trim_trim _

theorem newline_notMem_flat (s : String) : '\n' ∉ flat s := by
  intro hmem
  obtain ⟨c, -, hc⟩ := List.mem_map.1 (Text.mem_of_mem_trim hmem)
  split at hc
  next => cases hc
  next hne => exact hne hc

/-- What a row tells of the message of an issue, with the correction where there is one. -/
def messageText (i : Issue) : List Char :=
  flat i.message ++ match i.fix.filter (· != "") with
    | some fix => "<br/><span style=\"opacity:0.75\">".toList ++ (flat fix ++ "</span>".toList)
    | none => []

theorem toList_messageCell (i : Issue) : (messageCell i).toList = mark (messageText i) := by
  have htags : mark "<br/><span style=\"opacity:0.75\">".toList =
      "<br/><span style=\"opacity:0.75\">".toList ∧ mark "</span>".toList = "</span>".toList := by
    decide
  rw [messageCell, messageText]
  cases i.fix.filter (· != "") with
  | none => rw [List.append_nil, toList_cell]
  | some fix => simp only [String.toList_append, toList_cell, Text.mark_append, htags,
      List.append_assoc]

theorem trim_messageText (i : Issue) : Text.trim (messageText i) = messageText i := by
  rw [messageText]
  cases i.fix.filter (· != "") with
  | none => rw [List.append_nil, trim_flat]
  | some fix =>
    have htag : Text.IsTrimmed ("<br/><span style=\"opacity:0.75\">".toList ++
        (flat fix ++ "</span>".toList)) :=
      .append ⟨⟨'<', by decide, by decide⟩, '>', by decide, by decide⟩
        ⟨⟨'<', by decide, by decide⟩, '>', by decide, by decide⟩ (flat fix)
    rcases Text.trim_eq_nil_or_isTrimmed (i.message.toList.map fun c => if c = '\n' then ' ' else c)
      with h | h
    · rw [flat, h]
      exact htag.trim_eq
    · exact (h.append htag []).trim_eq

theorem newline_notMem_messageText (i : Issue) : '\n' ∉ messageText i := by
  rw [messageText]
  cases i.fix.filter (· != "") with
  | none => simpa using newline_notMem_flat i.message
  | some fix => simp [newline_notMem_flat]

/-- What the cells of a row tell of an issue of a file. -/
def rowTexts (path : String) (i : Issue) : List (List Char) :=
  [flat path, (toString i.line).toList, i.severity.name.toList, i.kind.name.toList,
    flat i.category, (Decimal.twoPlaces i.confidence).toList, messageText i]

section rowTexts

variable {i : Issue}

theorem mark_decimal {cs : List Char} (h : ∀ c ∈ cs, c.isDigit = true ∨ c = '.') :
    mark cs = cs := by
  refine Text.mark_eq_self fun c hc => ?_
  rw [← Bool.not_eq_true, Text.needsMark_eq_true]
  rintro (rfl | rfl) <;> exact absurd (h _ hc) (by decide)

/-- The names of severities and of the two kinds are words without a bar or a backslash. -/
theorem isWord_names (hkind : i.kind = .quality ∨ i.kind = .security) :
    (Text.IsWord i.severity.name.toList ∧ mark i.severity.name.toList = i.severity.name.toList) ∧
      Text.IsWord i.kind.name.toList ∧ mark i.kind.name.toList = i.kind.name.toList := by
  refine ⟨by cases i.severity <;> decide, ?_⟩
  rcases hkind with h | h <;> rw [h] <;> decide

theorem issueRow_eq (path : String) (hkind : i.kind = .quality ∨ i.kind = .security) :
    ∃ cells, issueRow path i = row cells ∧
      cells.map String.toList = (rowTexts path i).map mark := by
  obtain ⟨⟨-, hseverity⟩, -, hkind⟩ := isWord_names hkind
  have hline : mark (toString i.line).toList = (toString i.line).toList := by
    rw [Decimal.toList_toString_nat]
    exact mark_decimal fun c hc => .inl (Decimal.isDigit_of_mem_digits hc)
  have hconfidence := mark_decimal fun c => Decimal.mem_twoPlaces (x := i.confidence) (c := c)
  refine ⟨_, rfl, ?_⟩
  simp only [rowTexts, List.map_cons, List.map_nil, toList_cell, toList_messageCell, hline,
    hseverity, hkind, hconfidence]

theorem trim_rowTexts {path : String} (hkind : i.kind = .quality ∨ i.kind = .security)
    {x : List Char} (hx : x ∈ rowTexts path i) : Text.trim x = x ∧ '\n' ∉ x := by
  have hword {w : List Char} (h : Text.IsWord w) : Text.trim w = w ∧ '\n' ∉ w :=
    ⟨h.isTrimmed.trim_eq, fun hmem => absurd (h.2 _ hmem) (by decide)⟩
  have hflat (s : String) : Text.trim (flat s) = flat s ∧ '\n' ∉ flat s :=
    ⟨trim_flat s, newline_notMem_flat s⟩
  obtain ⟨⟨hseverity, -⟩, hkind, -⟩ := isWord_names hkind
  simp only [rowTexts, List.mem_cons, List.not_mem_nil, or_false] at hx
  rcases hx with rfl | rfl | rfl | rfl | rfl | rfl | rfl
  · exact hflat path
  · exact hword (Decimal.isWord_toString i.line)
  · exact hword hseverity
  · exact hword hkind
  · exact hflat i.category
  · exact hword (Decimal.isWord_twoPlaces i.confidence)
  · exact ⟨trim_messageText i, newline_notMem_messageText i⟩

/-- Whether a row tells an issue of a file: it has eight open bars, and without their marks its
cells are the texts of the issue. -/
structure TellsIssue (line : List Char) (f : String × Issue) : Prop where
  bars : openBars line = 8
  cells : (cellsOf line).map unmark = rowTexts f.1 f.2

theorem tellsIssue_issueRow (path : String) (hkind : i.kind = .quality ∨ i.kind = .security) :
    TellsIssue (issueRow path i).toList (path, i) := by
  obtain ⟨cells, hrow, hcells⟩ := issueRow_eq path hkind
  have hne : rowTexts path i ≠ [] := List.cons_ne_nil _ _
  obtain ⟨hbars, hback⟩ := row_of_marked hne (fun x hx => (trim_rowTexts hkind hx).1) hcells
  rw [hrow]
  exact ⟨hbars, hback⟩

theorem newline_notMem_issueRow (path : String) (hkind : i.kind = .quality ∨ i.kind = .security) :
    '\n' ∉ (issueRow path i).toList := by
  obtain ⟨cells, hrow, hcells⟩ := issueRow_eq path hkind
  rw [hrow]
  exact newline_notMem_row hcells fun x hx => (trim_rowTexts hkind hx).2

end rowTexts

/-! ### Tables -/

/-- The issues of reports in order, each with the path of its file. -/
def located (rs : List Report) : List (String × Issue) :=
  rs.flatMap fun r => r.analysis.issues.map (r.path, ·)

theorem rows_eq (rs : List Report) : rows rs = (located rs).map fun f => issueRow f.1 f.2 := by
  rw [rows, located, List.map_flatMap]
  simp only [List.map_map]
  rfl

/-- The table of reports about quality or security. Below its head a line for each issue tells the
issue, in the order of the reports and of their issues. -/
theorem table_read_back (rs : List Report) (hissues : allIssues rs ≠ [])
    (hkinds : ∀ i ∈ allIssues rs, i.kind = .quality ∨ i.kind = .security) :
    ∃ body, Text.rows (markdown rs).toList =
        (heading rs ++ tableHead).map String.toList ++ (body ++ [[]]) ∧
      List.Forall₂ TellsIssue body (located rs) := by
  have hlocated : ∀ f ∈ located rs, f.2.kind = .quality ∨ f.2.kind = .security := by
    intro f hf
    obtain ⟨r, hr, hmem⟩ := List.mem_flatMap.1 hf
    obtain ⟨i, hi, rfl⟩ := List.mem_map.1 hmem
    exact hkinds i (List.mem_flatMap.2 ⟨r, hr, hi⟩)
  refine ⟨(rows rs).map String.toList, ?_, ?_⟩
  · have hhead : ∀ l ∈ tableHead, '\n' ∉ l.toList := by decide
    have hrows : ∀ l ∈ rows rs, '\n' ∉ l.toList := by
      rw [rows_eq, List.forall_mem_map]
      exact fun f hf => newline_notMem_issueRow f.1 (hlocated f hf)
    have hlast : Text.rows ("\n".intercalate [""]).toList = [[]] := rfl
    have htable : table rs = tableHead ++ rows rs := by
      rw [table, if_neg (by simpa using hissues)]
    rw [rows_markdown, htable,
      rows_intercalate (List.forall_mem_append.2 ⟨hhead, hrows⟩) (List.cons_ne_nil "" []), hlast]
    simp only [List.map_append, List.append_assoc]
  · rw [rows_eq, List.map_map, List.forall₂_map_left_iff, List.forall₂_same]
    exact fun f hf => tellsIssue_issueRow f.1 (hlocated f hf)

/-- Reports whose texts hold bars, backslashes and a line feed, some of them at an end. -/
def barredReports : List Report := [
  reportOf "dir|a\\" [{ issueAt 1 .security .high with
    category := "|", message := " a\\|b\n\\" }],
  reportOf "b.py" [{ issueAt 2 .quality .low with message := "\\\\", fix := some "c||d" }]]

theorem table_read_back_barredReports :
    allIssues barredReports ≠ [] ∧
    (∀ i ∈ allIssues barredReports, i.kind = .quality ∨ i.kind = .security) ∧
    ∃ first second, Text.rows (markdown barredReports).toList =
        (heading barredReports ++ tableHead).map String.toList ++ [first, second, []] ∧
      openBars first = 8 ∧ openBars second = 8 ∧
      (cellsOf first).map unmark = ["dir|a\\", "1", "HIGH", "security", "|", "0.50",
        "a\\|b \\"].map String.toList ∧
      (cellsOf second).map unmark = ["b.py", "2", "LOW", "quality", "Letters", "0.50",
        "\\\\<br/><span style=\"opacity:0.75\">c||d</span>"].map String.toList := by
  have hissues : allIssues barredReports ≠ [] := by decide +kernel
  have hkinds : ∀ i ∈ allIssues barredReports, i.kind = .quality ∨ i.kind = .security := by
    decide +kernel
  obtain ⟨body, hrows, hbody⟩ := table_read_back barredReports hissues hkinds
  have htexts : (located barredReports).map (fun f => rowTexts f.1 f.2) =
      [["dir|a\\", "1", "HIGH", "security", "|", "0.50", "a\\|b \\"].map String.toList,
        ["b.py", "2", "LOW", "quality", "Letters", "0.50",
          "\\\\<br/><span style=\"opacity:0.75\">c||d</span>"].map String.toList] := by
    decide +kernel
  obtain ⟨htexts₁, htexts₂⟩ := List.cons.inj htexts
  obtain ⟨htexts₂, -⟩ := List.cons.inj htexts₂
  cases hbody with
  | cons hfirst hrest =>
    cases hrest with
    | cons hsecond hrest =>
      cases hrest
      exact ⟨hissues, hkinds, _, _, hrows, hfirst.bars, hsecond.bars,
        hfirst.cells.trans htexts₁, hsecond.cells.trans htexts₂⟩

end RuleReview.Report
