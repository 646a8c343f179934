import RuleReview.Proofs.Issue.Merge
import RuleReview.Proofs.Report.Table
import RuleReview.Proofs.Review.Marker

/-! The table of a comment about findings. Bars of messages are marked in its rows, line ends are
not, and neither are the backslashes before a bar. Proved: which findings have a row of three cells
each, and which key the comment tells. -/

namespace RuleReview.Review

open Text (openBars openBarsFrom IsPlain)

/-! ### Rows -/

def barred (cs : List Char) : List Char := Text.replaceChar '|' ['\\', '|'] cs

theorem barred_bar (cs : List Char) : barred ('|' :: cs) = '\\' :: '|' :: barred cs := rfl

theorem barred_cons {c : Char} (h : c ≠ '|') (cs : List Char) :
    barred (c :: cs) = c :: barred cs := by
  simp [barred, Text.replaceChar, h]

/-- A bar that gets a mark stays open if a mark stood there before. -/
theorem openBarsFrom_barred (n : Nat) (cs : List Char) :
    openBarsFrom n (barred cs) + openBarsFrom n cs = cs.count '|' := by
  induction cs generalizing n with
  | nil => rfl
  | cons c cs ih =>
    by_cases hc : c = '|'
    · subst hc
      have hrest := ih 0
      rcases Nat.mod_two_eq_zero_or_one n with hn | hn <;>
        simp [barred_bar, openBarsFrom, Text.slashesAfter, hn, Nat.add_mod] <;> omega
    · have hrest := ih (Text.slashesAfter n c)
      simpa [barred_cons hc, openBarsFrom, hc] using hrest

theorem openBars_barred (cs : List Char) :
    openBars (barred cs) + openBars cs = cs.count '|' := openBarsFrom_barred 0 cs

/-- Whether a finding has a row of its own: no text ends the line, no bar of the path is open, and
each one of the message is, so that its mark does not take away another one. -/
structure FitsRow (f : String × Issue) : Prop where
  path_line : '\n' ∉ f.1.toList
  path_bars : openBars f.1.toList = 0
  message_line : '\n' ∉ f.2.message.toList
  message_bars : openBars f.2.message.toList = f.2.message.toList.count '|'

theorem summaryRow_eq (f : String × Issue) : summaryRow f =
    Report.row [f.2.severity.name, "`" ++ f.1 ++ ":" ++ toString f.2.line ++ "`",
      String.ofList (barred f.2.message.toList)] := by
  have hself (s : String) : toString s = s := rfl
  rw [← String.toList_inj]
  simp [summaryRow, Report.row, hself, barred, String.intercalate_cons_cons]

theorem openBars_place (f : String × Issue) :
    openBars ("`" ++ f.1 ++ ":" ++ toString f.2.line ++ "`").toList = openBars f.1.toList := by
  have hline : '|' ∉ ":".toList ++ ((toString f.2.line).toList ++ "`".toList) := by
    have hdigits : '|' ∉ Nat.toDigits 10 f.2.line := fun hbar =>
      absurd (Decimal.isDigit_of_mem_digits hbar) (by decide)
    simp [hdigits]
  have hplace : ("`" ++ f.1 ++ ":" ++ toString f.2.line ++ "`").toList =
      ('`' :: f.1.toList) ++ (":".toList ++ ((toString f.2.line).toList ++ "`".toList)) := by
    simp
  rw [hplace, openBars, Text.openBarsFrom_append_of_notMem hline]
  exact Nat.zero_add _

theorem openBars_summaryRow (f : String × Issue) : openBars (summaryRow f).toList =
    4 + (openBars f.1.toList + openBars (barred f.2.message.toList)) := by
  have hseverity : openBars f.2.severity.name.toList = 0 := by
    cases f.2.severity <;> decide
  rw [summaryRow_eq, Report.openBars_row (List.cons_ne_nil _ _)]
  simp only [List.map_cons, List.map_nil, List.sum_cons, List.sum_nil, hseverity, openBars_place,
    String.toList_ofList, List.length_cons, List.length_nil]
  omega

theorem mem_barred {c : Char} (h : c ≠ '\\') {cs : List Char} : c ∈ barred cs ↔ c ∈ cs := by
  induction cs with
  | nil => rfl
  | cons d cs ih =>
    by_cases hd : d = '|'
    · subst hd
      simp [barred_bar, ih, h]
    · rw [barred_cons hd, List.mem_cons, List.mem_cons, ih]

theorem newline_mem_summaryRow (f : String × Issue) :
    '\n' ∈ (summaryRow f).toList ↔ '\n' ∈ f.1.toList ∨ '\n' ∈ f.2.message.toList := by
  have hdigits : '\n' ∉ Nat.toDigits 10 f.2.line := fun hline =>
    absurd (Decimal.isDigit_of_mem_digits hline) (by decide)
  have hseverity : '\n' ∉ f.2.severity.name.toList := by
    cases f.2.severity <;> decide
  have hmessage : '\n' ∈ barred f.2.message.toList ↔ '\n' ∈ f.2.message.toList :=
    mem_barred (by decide)
  rw [summaryRow_eq, Report.toList_row (List.cons_ne_nil _ _)]
  simp [hdigits, hseverity, hmessage]

/-- The row of a finding is one line with four open bars if the finding fits in a row. -/
theorem fitsRow_iff (f : String × Issue) :
    FitsRow f ↔ '\n' ∉ (summaryRow f).toList ∧ openBars (summaryRow f).toList = 4 := by
  have hmessage := openBars_barred f.2.message.toList
  rw [newline_mem_summaryRow, openBars_summaryRow, not_or]
  constructor
  · rintro ⟨hpath, hbars, hline, hmarks⟩
    exact ⟨⟨hpath, hline⟩, by omega⟩
  · rintro ⟨⟨hpath, hline⟩, hbars⟩
    exact ⟨hpath, by omega, hline, by omega⟩

/-! ### Comments -/

/-- The findings that a comment shows. -/
def shown (fs : Placed) (limit : Nat) : Placed := (orderPlaced fs).take limit

/-- The lines of a comment above its rows. -/
def headLines (fs : Placed) : List String :=
  let counts := Issue.breakdown (fs.map (·.2))
  ["## CodeSentry review", "",
    s!"Found **{fs.length}** issue(s) outside the changed lines: {counts.critical} critical, "
      ++ s!"{counts.high} high, {counts.medium} medium, {counts.low} low.",
    "", "| Severity | Location | Finding |", "|---|---|---|"]

/-- The lines of a comment between its rows and its marker. -/
def footLines (fs : Placed) (limit : Nat) : List String :=
  let left := (fs.length : Int) - limit
  (if 0 < left then ["", s!"…and {left} more."] else []) ++ [""]

theorem isPlain_headLines {fs : Placed} {l : String} (h : l ∈ headLines fs) :
    IsPlain l.toList ∧ startsApart l.toList := by
  have hself (s : String) : toString s = s := rfl
  have hdigits (n : Nat) : IsPlain (toString n).toList := by
    rw [Decimal.toList_toString_nat]
    exact (Decimal.isWord_digits n).isPlain
  simp only [headLines, List.mem_cons, List.not_mem_nil, or_false] at h
  rcases h with rfl | rfl | rfl | rfl | rfl | rfl
  · decide
  · decide
  · simp only [hself, String.toList_append, List.append_assoc, Text.isPlain_append, hdigits]
    exact ⟨by decide, startsApart_append (by decide) _⟩
  · decide
  · decide
  · decide

theorem isPlain_footLines {fs : Placed} {limit : Nat} {l : String} (h : l ∈ footLines fs limit) :
    IsPlain l.toList ∧ startsApart l.toList := by
  have hself (s : String) : toString s = s := rfl
  have hempty : IsPlain "".toList ∧ startsApart "".toList := by decide
  rcases List.mem_append.1 h with h | h
  · split at h
    next =>
      simp only [List.mem_cons, List.not_mem_nil, or_false] at h
      rcases h with rfl | rfl
      · exact hempty
      · have hleft := (Decimal.isWord_toString (fs.length - limit)).isPlain
        simp only [hself, String.toList_append, List.append_assoc, Text.isPlain_append, hleft]
        exact ⟨by decide, startsApart_append (by decide) _⟩
    next => cases h
  · rw [List.mem_singleton.1 h]
    exact hempty

/-- A comment has the lines of its parts. -/
theorem toList_summaryBody (fs : Placed) (marker : String) (limit : Nat) :
    (summaryBody fs marker limit).toList =
      Text.unlines ((headLines fs ++ ((shown fs limit).map summaryRow ++
        footLines fs limit)).map String.toList) ++ marker.toList := by
  have htake : takeUpTo limit (orderPlaced fs) = shown fs limit := by
    rw [takeUpTo, if_pos (Int.natCast_nonneg limit), Int.toNat_natCast, shown]
  have hlines : summaryBody fs marker limit = "\n".intercalate (headLines fs ++
      ((shown fs limit).map summaryRow ++ footLines fs limit) ++ [marker]) := by
    rw [summaryBody, htake, headLines, footLines]
    simp only [List.append_assoc]
    rfl
  rw [hlines, String.toList_intercalate, List.map_append, List.map_singleton]
  exact intercalate_newline _ _

theorem rows_summaryBody (fs : Placed) {marker : String} (hmarker : IsPlain marker.toList)
    (limit : Nat) : Text.rows (summaryBody fs marker limit).toList =
      (headLines fs).map String.toList ++
        (((shown fs limit).flatMap fun f => Text.rows (summaryRow f).toList) ++
          ((footLines fs limit).map String.toList ++ [marker.toList])) := by
  have hrows {cs : List Char} (h : IsPlain cs) : Text.rows cs = [cs] :=
    Text.splitOn_eq_singleton fun hmem => absurd (h _ hmem) (by decide)
  have hplain {ls : List String} (h : ∀ l ∈ ls, IsPlain l.toList) :
      (ls.map String.toList).flatMap Text.rows = ls.map String.toList := by
    rw [List.flatMap_map, List.map_eq_flatMap]
    exact List.flatMap_congr fun l hl => hrows (h l hl)
  rw [toList_summaryBody, Text.rows_unlines_append, List.map_append, List.flatMap_append,
    hplain fun l hl => (isPlain_headLines hl).1, List.map_append, List.flatMap_append,
    hplain fun l hl => (isPlain_footLines hl).1, hrows hmarker, List.map_map, List.flatMap_map]
  simp only [List.append_assoc]
  rfl

/-- Whether a comment has the table of its findings: between its first and its last lines there is
one line for each of them, with four open bars. -/
def HasTable (fs : Placed) (marker : String) (limit : Nat) : Prop :=
  ∃ table, Text.rows (summaryBody fs marker limit).toList =
      (headLines fs).map String.toList ++
        (table ++ ((footLines fs limit).map String.toList ++ [marker.toList])) ∧
    table.length = (shown fs limit).length ∧ ∀ line ∈ table, openBars line = 4

theorem hasTable_iff (fs : Placed) {marker : String} (hmarker : IsPlain marker.toList)
    (limit : Nat) : HasTable fs marker limit ↔ ∀ f ∈ shown fs limit, FitsRow f := by
  have hrows := rows_summaryBody fs hmarker limit
  constructor
  · rintro ⟨table, htable, hlength, hbars⟩ f hf
    rw [hrows] at htable
    obtain rfl := List.append_cancel_right (List.append_cancel_left htable)
    have hfeeds : ((shown fs limit).map fun f => (summaryRow f).toList.count '\n').sum = 0 := by
      simp only [List.length_flatMap, Text.length_rows, List.sum_map_add] at hlength
      simpa using hlength
    have hline : '\n' ∉ (summaryRow f).toList := by
      rw [← List.count_eq_zero]
      exact List.sum_eq_zero_iff.1 hfeeds _ (List.mem_map_of_mem hf)
    refine (fitsRow_iff f).2 ⟨hline, hbars _ (List.mem_flatMap.2 ⟨f, hf, ?_⟩)⟩
    rw [Text.rows, Text.splitOn_eq_singleton hline]
    exact List.mem_singleton_self _
  · intro h
    have htable : ((shown fs limit).flatMap fun f => Text.rows (summaryRow f).toList) =
        (shown fs limit).map fun f => (summaryRow f).toList := by
      rw [List.map_eq_flatMap]
      exact List.flatMap_congr fun f hf =>
        Text.splitOn_eq_singleton ((fitsRow_iff f).1 (h f hf)).1
    refine ⟨_, hrows, by rw [htable, List.length_map], ?_⟩
    rw [htable, List.forall_mem_map]
    exact fun f hf => ((fitsRow_iff f).1 (h f hf)).2

theorem findSome?_flatMap {α β γ : Type} (p : β → Option γ) (g : α → List β) (xs : List α) :
    (xs.flatMap g).findSome? p = xs.findSome? fun x => (g x).findSome? p := by
  induction xs with
  | nil => rfl
  | cons x xs ih =>
    rw [List.flatMap_cons, List.findSome?_append, ih, List.findSome?_cons]
    cases (g x).findSome? p <;> rfl

namespace Marker

/-- What a line tells of a key, if it tells anything. -/
def told? (line : List Char) : Option (Option String) :=
  match readLine line with
  | .found key => some key
  | .passed => none

theorem keyOfLines_eq (ls : List (List Char)) : keyOfLines ls = (ls.findSome? told?).getD none := by
  induction ls with
  | nil => rfl
  | cons l ls ih =>
    rw [keyOfLines, List.findSome?_cons, told?]
    cases readLine l with
    | found key => rfl
    | passed => exact ih

end Marker

/-- What the row of a finding tells of a key in the lines after its first one. -/
def hiddenKey? (f : String × Issue) : Option (Option String) :=
  (Text.laterLines (summaryRow f).toList).findSome? Marker.told?

/-- A comment tells the key that is hidden in its rows first, else that of its marker. -/
theorem key?_summaryBody (fs : Placed) {key : String} (hkey : Text.IsWord key.toList)
    (limit : Nat) : Marker.key? (summaryBody fs (Marker.ofSummary key) limit) =
      ((shown fs limit).findSome? hiddenKey?).getD (some key) := by
  let tells (l : String) : Option (Option String) :=
    (Text.firstLine l.toList :: Text.laterLines l.toList).findSome? Marker.told?
  have hpassed {ls : List String} (h : ∀ l ∈ ls, IsPlain l.toList ∧ startsApart l.toList) :
      ls.findSome? tells = none := by
    refine List.findSome?_eq_none_iff.2 fun l hl => ?_
    obtain ⟨hplain, hfirst⟩ := h l hl
    simp only [tells, Text.firstLine_of_isPlain hplain, Text.laterLines_of_isPlain hplain,
      List.findSome?_cons, Marker.told?, Marker.readLine_eq_passed hfirst, List.findSome?_nil]
  have hrow (f : String × Issue) : tells (summaryRow f) = hiddenKey? f := by
    obtain ⟨rest, hrest⟩ : ∃ rest, (summaryRow f).toList = ['|'] ++ rest :=
      ⟨_, by rw [summaryRow_eq, Report.toList_row (List.cons_ne_nil _ _)]; rfl⟩
    have hbar : IsPlain ['|'] := by decide
    have hfirst : Marker.readLine (Text.firstLine (summaryRow f).toList) = .passed := by
      rw [hrest, Text.firstLine_append hbar]
      exact Marker.readLine_eq_passed (startsApart_append (List.cons_ne_nil '|' []) _)
    simp only [tells, List.findSome?_cons, Marker.told?, hfirst, hiddenKey?]
  have hmarker : (Text.breakLines (Marker.ofSummary key).toList).findSome? Marker.told? =
      some (some key) := by
    have hne : (Marker.ofSummary key).toList ≠ [] := by simp [Marker.toList_ofSummary]
    rw [Text.breakLines_eq_singleton (Marker.isPlain_ofSummary hkey) hne, List.findSome?_cons,
      Marker.told?, Marker.readLine_ofSummary hkey]
  have hlines (ls : List String) : ((ls.map String.toList).flatMap fun l =>
      Text.firstLine l :: Text.laterLines l).findSome? Marker.told? = ls.findSome? tells := by
    rw [List.flatMap_map, findSome?_flatMap]
  rw [Marker.key?, toList_summaryBody, Text.breakLines_unlines_append, Marker.keyOfLines_eq,
    List.findSome?_append, hlines, List.findSome?_append, List.findSome?_append,
    hpassed fun l hl => isPlain_headLines hl, hpassed fun l hl => isPlain_footLines hl, hmarker,
    List.findSome?_map]
  simp only [Function.comp_def, hrow]
  cases (shown fs limit).findSome? hiddenKey? <;> rfl

theorem length_shown (fs : Placed) (limit : Nat) :
    (shown fs limit).length = min limit fs.length := by
  rw [shown, List.length_take, orderPlaced, List.length_mergeSort]

theorem orderPlaced_pairwise (fs : Placed) :
    (orderPlaced fs).Pairwise fun a b => Issue.mayPrecede a.2 b.2 :=
  List.pairwise_mergeSort (fun a b c => Issue.mayPrecede_trans a.2 b.2 c.2)
    (fun a b => Issue.mayPrecede_total a.2 b.2) fs

/-- The comment about findings that are told apart by a text. It shows the first findings up to the
limit, the graver and then the surer ones first: between its first and its last lines are those of
their rows, in this order, and its last line is its marker. It has the table of these findings
exactly if each of them fits in a row, and it tells its key exactly if no row hides another
one. -/
theorem summaryBody_table (fs : Placed) (fingerprint : String) (limit : Nat) :
    let key := summaryKey fingerprint
    let marker := Marker.ofSummary key
    let body := summaryBody fs marker limit
    ((shown fs limit).length = min limit fs.length ∧ shown fs limit <+: orderPlaced fs ∧
      (orderPlaced fs).Perm fs ∧
      (orderPlaced fs).Pairwise fun a b => Issue.mayPrecede a.2 b.2) ∧
    Text.rows body.toList = (headLines fs).map String.toList ++
      (((shown fs limit).flatMap fun f => Text.rows (Report.row [f.2.severity.name,
          "`" ++ f.1 ++ ":" ++ toString f.2.line ++ "`",
          String.ofList (barred f.2.message.toList)]).toList) ++
        ((footLines fs limit).map String.toList ++ [marker.toList])) ∧
    (Text.rows body.toList).getLast? = some marker.toList ∧
    (HasTable fs marker limit ↔ ∀ f ∈ shown fs limit, FitsRow f) ∧
    Marker.key? body = ((shown fs limit).findSome? hiddenKey?).getD (some key) ∧
    (Marker.key? body = some key ↔
      ∀ other ∈ (shown fs limit).findSome? hiddenKey?, other = some key) := by
  intro key marker body
  have hkey := isWord_summaryKey fingerprint
  have hmarker := Marker.isPlain_ofSummary hkey
  have htold := key?_summaryBody fs hkey limit
  refine ⟨⟨length_shown fs limit, List.take_prefix .., List.mergeSort_perm ..,
    orderPlaced_pairwise fs⟩, ?_, ?_, hasTable_iff fs hmarker limit, htold, ?_⟩
  · simp only [← summaryRow_eq]
    exact rows_summaryBody fs hmarker limit
  · rw [rows_summaryBody fs hmarker limit, ← List.append_assoc, ← List.append_assoc,
      List.getLast?_concat]
  · rw [htold]
    cases (shown fs limit).findSome? hiddenKey? <;> simp [key]

/-- A finding with a message of three lines, of which the second one has the form of a marker. -/
def threeLines : Placed := [("a.js", { lookalike with
  message := "x\n<!-- codesentry:v1 key=none -->\ny" })]

/-- A line feed in a message breaks the row, and what comes after it is taken for the marker. -/
theorem summaryBody_threeLines :
    ¬HasTable threeLines (Marker.ofSummary (summaryKey "a")) 10 ∧
      Marker.key? (summaryBody threeLines (Marker.ofSummary (summaryKey "a")) 10) =
        some "none" ∧ summaryKey "a" ≠ "none" := by
  have hkey := isWord_summaryKey "a"
  have hshown : shown threeLines 10 = threeLines := by
    rw [shown, orderPlaced, threeLines, List.mergeSort_singleton]
    rfl
  refine ⟨?_, ?_, by decide +kernel⟩
  · rw [hasTable_iff _ (Marker.isPlain_ofSummary hkey), hshown]
    intro h
    exact absurd (h _ List.mem_cons_self).message_line (by decide)
  · have hidden : threeLines.findSome? hiddenKey? = some (some "none") := by decide +kernel
    have htold := key?_summaryBody threeLines hkey 10
    rwa [hshown, hidden] at htold

end RuleReview.Review
