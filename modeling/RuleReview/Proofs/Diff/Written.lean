import RuleReview.Proofs.Diff.Numbering

/-! Diffs as they are written, and the pieces that reading makes of them. A line of a hunk has
its mark in front and may have a remark after it; counts of one may be left out of a header.
Proved: an open hunk takes the lines that were written into it, whatever they look like, and
the header of the next one is read as such. -/

namespace RuleReview.Diff

/-- The mark in front of a line of a hunk. -/
def Kind.mark : Kind → Char
  | .context => ' '
  | .added => '+'
  | .removed => '-'

/-- The remark about a missing end of line. -/
def missingEnd : List Char := "\\ No newline at end of file".toList

/-- A line about the path on one side, which may not exist there. -/
def pathLine (marks : String) (letter : Char) : Option (List Char) → List Char
  | none => marks.toList ++ "/dev/null".toList
  | some path => marks.toList ++ letter :: '/' :: path

namespace Written

/-- A line of a hunk, and whether its end is missing in the file. -/
structure Row where
  kind : Kind
  text : List Char
  unended : Bool := false

def Row.lines (r : Row) : List (List Char) :=
  (r.kind.mark :: r.text) :: if r.unended then [missingEnd] else []

/-- A hunk with what follows its ranges in the header, and whether a count is left out. -/
structure Hunk where
  range : Range
  caption : List Char
  rows : List Row
  oldBrief : Bool := false
  newBrief : Bool := false

def Hunk.header (h : Hunk) : List Char := rangeHeader h.range h.oldBrief h.newBrief h.caption

def Hunk.lines (h : Hunk) : List (List Char) := h.header :: h.rows.flatMap Row.lines

end Written

/-- A diff as it is written: perhaps a title with both paths, other lines, the paths on
either side, and hunks. -/
structure Written where
  title : Option (List Char × List Char) := none
  others : List (List Char) := []
  oldPath : Option (List Char)
  newPath : Option (List Char)
  hunks : List Written.Hunk

namespace Written

def titleLine (paths : List Char × List Char) : List Char :=
  "diff --git a/".toList ++ paths.1 ++ " b/".toList ++ paths.2

-- stated here because `rw [titleLine]` would compute the texts
theorem titleLine_eq (paths : List Char × List Char) :
    titleLine paths = "diff --git a/".toList ++ paths.1 ++ " b/".toList ++ paths.2 := rfl

def head (w : Written) : List (List Char) :=
  w.title.toList.map titleLine ++ w.others ++
    [pathLine "--- " 'a' w.oldPath, pathLine "+++ " 'b' w.newPath]

def lines (w : Written) : List (List Char) := w.head ++ w.hunks.flatMap Hunk.lines

/-- The text, in which the line feed after the last line may be left out. -/
def text (w : Written) (lastFeed : Bool) : String :=
  let cs := Text.unlines w.lines
  String.ofList (if lastFeed then cs else cs.dropLast)

/-- A path that a line of the diff can hold. -/
structure IsPath (path : List Char) : Prop where
  isPlain : Text.IsPlain path
  noTab : '\t' ∉ path
  noBlankAtEnd : ∀ c ∈ path.getLast?, Text.isBlank c = false

theorem isPath_iff {path : List Char} : IsPath path ↔ Text.IsPlain path ∧ '\t' ∉ path ∧
    path.getLast?.all (!Text.isBlank ·) = true := by
  rw [Option.all_eq_true]
  constructor
  · intro h
    exact ⟨h.isPlain, h.noTab, fun c hc => by simpa using h.noBlankAtEnd c hc⟩
  · rintro ⟨hplain, htab, hblank⟩
    exact ⟨hplain, htab, fun c hc => by simpa using hblank c hc⟩

instance (path : List Char) : Decidable (IsPath path) := decidable_of_iff _ isPath_iff.symm

/-- A hunk whose header tells the numbers of its lines. -/
structure Hunk.IsCounted (h : Hunk) : Prop where
  oldCount : h.rows.countP (·.kind.isOld) = h.range.oldCount
  newCount : h.rows.countP (·.kind.isNew) = h.range.newCount
  oldBrief : h.oldBrief = true → h.range.oldCount = 1
  newBrief : h.newBrief = true → h.range.newCount = 1

/-- Paths that are read back, and other lines that are no headers of hunks. -/
structure HasHead (w : Written) : Prop where
  title : ∀ paths ∈ w.title, Text.IsPlain paths.1 ∧ Text.IsPlain paths.2
  others : ∀ l ∈ w.others, Text.IsPlain l ∧ ¬ IsHeader l
  oldPath : ∀ path ∈ w.oldPath, IsPath path
  newPath : ∀ path ∈ w.newPath, IsPath path

/-- Lines before the hunks that stay lines, of which none is the header of a hunk. -/
def HasPlainHead (w : Written) : Prop := ∀ l ∈ w.head, Text.IsPlain l ∧ ¬ IsHeader l

/-- A diff whose texts are lines and whose counts are exact. -/
structure IsWellFormed (w : Written) : Prop extends HasHead w where
  isCounted : ∀ h ∈ w.hunks, h.IsCounted
  caption : ∀ h ∈ w.hunks, Text.IsPlain h.caption
  rows : ∀ h ∈ w.hunks, ∀ r ∈ h.rows, Text.IsPlain r.text

/-- Whether every number in the headers has few enough digits to be read. -/
def IsReadable (w : Written) : Prop := ∀ h ∈ w.hunks, h.range.IsReadable

end Written

/-! ### Remarks -/

/-- A line with a backslash in front. -/
def IsRemark (cs : List Char) : Prop := cs.head? = some '\\'

theorem isRemark_missingEnd : IsRemark missingEnd := rfl

theorem IsRemark.readBody? {cs : List Char} (h : IsRemark cs) : readBody? cs = none := by
  obtain ⟨rest, rfl⟩ := List.head?_eq_some_iff.1 h
  rfl

theorem IsHeader.head? {cs : List Char} (h : IsHeader cs) : cs.head? = some '@' := by
  obtain ⟨old, new, caption, -, rfl⟩ := h
  rfl

theorem not_isHeader_of_head? {cs : List Char} {c : Char} (h : cs.head? = some c) (hc : c ≠ '@') :
    ¬ IsHeader cs := by
  intro hheader
  exact hc (Option.some.inj (h.symm.trans hheader.head?))

theorem IsRemark.not_isHeader {cs : List Char} (h : IsRemark cs) : ¬ IsHeader cs :=
  not_isHeader_of_head? h (by decide)

theorem IsRemark.readPaths {cs : List Char} (h : IsRemark cs)
    (paths : Option (List Char) × Option (List Char)) : readPaths paths cs = paths := by
  obtain ⟨rest, rfl⟩ := List.head?_eq_some_iff.1 h
  rfl

theorem pieces_remarks {o n : Nat} (hopen : 0 < o ∨ 0 < n) {remarks : List (List Char)}
    (h : ∀ l ∈ remarks, IsRemark l) (rest : List (List Char)) :
    pieces o n (remarks ++ rest) = pieces o n rest := by
  induction remarks with
  | nil => rfl
  | cons l remarks ih =>
    rw [List.forall_mem_cons] at h
    rw [List.cons_append, pieces_remark _ hopen h.1.readBody?, ih h.2]

theorem pieces_outsides {ls : List (List Char)} (h : ∀ l ∈ ls, ¬ IsHeader l)
    (rest : List (List Char)) :
    pieces 0 0 (ls ++ rest) = (pieces 0 0 rest).map (ls.map Piece.outside ++ ·) := by
  induction ls with
  | nil =>
    rw [List.nil_append]
    cases pieces 0 0 rest <;> rfl
  | cons l ls ih =>
    rw [List.forall_mem_cons] at h
    rw [List.cons_append, pieces_outside _ (readRange?_eq_none_iff.2 h.1), ih h.2]
    cases pieces 0 0 rest <;> rfl

/-! ### Hunks -/

/-- A line of a hunk with the remarks after it. -/
structure Entry where
  kind : Kind
  text : List Char
  remarks : List (List Char)

namespace Entry

def lines (e : Entry) : List (List Char) := (e.kind.mark :: e.text) :: e.remarks

def piece (e : Entry) : Piece := .body e.kind e.text

/-- The remarks after the last entry, or those before where there is none. -/
def lastRemarks (before : List (List Char)) : List Entry → List (List Char)
  | [] => before
  | e :: es => lastRemarks e.remarks es

theorem isRemark_of_mem_lastRemarks {before : List (List Char)} {es : List Entry}
    (hbefore : ∀ l ∈ before, IsRemark l) (hes : ∀ e ∈ es, ∀ l ∈ e.remarks, IsRemark l) :
    ∀ l ∈ lastRemarks before es, IsRemark l := by
  induction es generalizing before with
  | nil => exact hbefore
  | cons e es ih =>
    rw [List.forall_mem_cons] at hes
    exact ih hes.1 hes.2

theorem readBody?_mark (kind : Kind) (text : List Char) :
    readBody? (kind.mark :: text) = some (kind, text) := by
  cases kind <;> rfl

/-- An open hunk takes exactly the entries that its header tells; the remarks after the last
one are already outside. -/
theorem pieces_lines {before : List (List Char)} {es : List Entry}
    (hbefore : ∀ l ∈ before, IsRemark l) (hes : ∀ e ∈ es, ∀ l ∈ e.remarks, IsRemark l)
    (rest : List (List Char)) :
    pieces (es.countP (·.kind.isOld)) (es.countP (·.kind.isNew))
        (before ++ (es.flatMap lines ++ rest)) =
      (pieces 0 0 rest).map
        (es.map piece ++ (lastRemarks before es).map Piece.outside ++ ·) := by
  induction es generalizing before with
  | nil => exact pieces_outsides (fun l hl => (hbefore l hl).not_isHeader) rest
  | cons e es ih =>
    rw [List.forall_mem_cons] at hes
    have hopen : 0 < (e :: es).countP (·.kind.isOld) ∨ 0 < (e :: es).countP (·.kind.isNew) := by
      rw [List.countP_cons, List.countP_cons]
      cases e.kind <;> simp [Kind.isOld, Kind.isNew]
    have hold : (e :: es).countP (·.kind.isOld) - e.kind.isOld.toNat =
        es.countP (·.kind.isOld) := by
      rw [List.countP_cons]
      cases e.kind.isOld <;> simp
    have hnew : (e :: es).countP (·.kind.isNew) - e.kind.isNew.toNat =
        es.countP (·.kind.isNew) := by
      rw [List.countP_cons]
      cases e.kind.isNew <;> simp
    rw [pieces_remarks hopen hbefore, List.flatMap_cons, lines, List.cons_append,
      List.cons_append, pieces_body _ hopen (readBody?_mark _ _), hold, hnew,
      List.append_assoc, ih hes.1 hes.2]
    cases pieces 0 0 rest <;> rfl

end Entry

/-! ### Lines of a written diff -/

/-- A text that is read as one line, up to remarks where other characters than the line feed
break it. -/
def IsHarmless (cs : List Char) : Prop := ∀ l ∈ Text.laterLines cs, IsRemark l

theorem isHarmless_of_isPlain {cs : List Char} (h : Text.IsPlain cs) : IsHarmless cs := by
  intro l hl
  rw [Text.laterLines_of_isPlain h] at hl
  exact absurd hl List.not_mem_nil

theorem isPlain_sideOf (start count : Nat) (brief : Bool) :
    Text.IsPlain (sideOf start count brief).text := by
  have hdigits (n : Nat) : Text.IsPlain (Decimal.digits n) :=
    Text.isPlain_of_isDigit fun _ => Decimal.isDigit_of_mem_digits
  cases brief with
  | true => exact hdigits start
  | false =>
    exact Text.isPlain_append.2 ⟨hdigits start, Text.isPlain_cons.2 ⟨rfl, hdigits count⟩⟩

theorem rangeHeader_eq_append (r : Range) (oldBrief newBrief : Bool) (caption : List Char) :
    rangeHeader r oldBrief newBrief caption = rangeHeader r oldBrief newBrief [] ++ caption := by
  simp [rangeHeader, headerText]

theorem isPlain_rangeHeader (r : Range) (oldBrief newBrief : Bool) :
    Text.IsPlain (rangeHeader r oldBrief newBrief []) := by
  rw [rangeHeader, headerText]
  simp only [Text.isPlain_append]
  exact ⟨by decide, isPlain_sideOf _ _ _, by decide, isPlain_sideOf _ _ _, by decide, by decide⟩

namespace Written

def Row.entry (r : Row) : Entry where
  kind := r.kind
  text := Text.firstLine r.text
  remarks := Text.laterLines r.text ++ if r.unended then [missingEnd] else []

/-- What is read of the lines of a hunk. -/
def Hunk.entries (h : Hunk) : List Entry := h.rows.map Row.entry

def Hunk.headerRead (h : Hunk) : List Char :=
  rangeHeader h.range h.oldBrief h.newBrief (Text.firstLine h.caption)

def Hunk.linesRead (h : Hunk) : List (List Char) :=
  h.headerRead :: (Text.laterLines h.caption ++ h.entries.flatMap Entry.lines)

def Hunk.pieces (h : Hunk) : List Piece :=
  .opening h.range h.headerRead :: (h.entries.map Entry.piece ++
    (Entry.lastRemarks (Text.laterLines h.caption) h.entries).map Piece.outside)

theorem Row.lines_broken (r : Row) :
    (r.lines.flatMap fun l => Text.firstLine l :: Text.laterLines l) = r.entry.lines := by
  have hmark : Text.IsPlain [r.kind.mark] := by cases r.kind <;> decide
  have hfirst := Text.firstLine_append hmark r.text
  have hlater := Text.laterLines_append hmark r.text
  rw [List.singleton_append] at hfirst hlater
  rw [lines, List.flatMap_cons, hfirst, hlater, entry, Entry.lines]
  cases r.unended <;> rfl

theorem Hunk.lines_broken (h : Hunk) :
    (h.lines.flatMap fun l => Text.firstLine l :: Text.laterLines l) = h.linesRead := by
  have hheader := isPlain_rangeHeader h.range h.oldBrief h.newBrief
  rw [lines, List.flatMap_cons, header, rangeHeader_eq_append, Text.firstLine_append hheader,
    Text.laterLines_append hheader, ← rangeHeader_eq_append, linesRead, headerRead,
    List.flatMap_assoc, entries, List.flatMap_map, List.cons_append]
  congr 2
  exact List.flatMap_congr fun r _ => r.lines_broken

/-- A text whose lines are harmless, and remarks follow where they break. -/
def Hunk.IsHarmless (h : Hunk) : Prop :=
  Diff.IsHarmless h.caption ∧ ∀ r ∈ h.rows, Diff.IsHarmless r.text

theorem Row.isRemark_of_mem_entry {r : Row} (h : Diff.IsHarmless r.text) :
    ∀ l ∈ r.entry.remarks, IsRemark l := by
  refine List.forall_mem_append.2 ⟨h, ?_⟩
  cases r.unended <;> simp [isRemark_missingEnd]

theorem Hunk.IsHarmless.isRemark_of_mem_entries {h : Hunk} (hh : h.IsHarmless) :
    ∀ e ∈ h.entries, ∀ l ∈ e.remarks, IsRemark l := by
  intro e he
  obtain ⟨r, hr, rfl⟩ := List.mem_map.1 he
  exact Row.isRemark_of_mem_entry (hh.2 r hr)

theorem Hunk.countP_entries (h : Hunk) (f : Kind → Bool) :
    h.entries.countP (f ·.kind) = h.rows.countP (f ·.kind) := by
  rw [entries, List.countP_map]
  rfl

theorem Hunk.readRange?_headerRead {h : Hunk} (hcounted : h.IsCounted)
    (hreadable : h.range.IsReadable) : readRange? h.headerRead = .ok (some h.range) :=
  readRange?_of_isReadable hreadable hcounted.oldBrief hcounted.newBrief _

/-- A hunk that is written is read, if its numbers are. -/
theorem Hunk.pieces_linesRead {h : Hunk} (hcounted : h.IsCounted) (hharmless : h.IsHarmless)
    (hreadable : h.range.IsReadable) (rest : List (List Char)) :
    Diff.pieces 0 0 (h.linesRead ++ rest) = (Diff.pieces 0 0 rest).map (h.pieces ++ ·) := by
  have hlines := Entry.pieces_lines hharmless.1 hharmless.isRemark_of_mem_entries rest
  rw [h.countP_entries, h.countP_entries, hcounted.oldCount, hcounted.newCount] at hlines
  rw [linesRead, List.cons_append, List.append_assoc,
    pieces_opening _ (Hunk.readRange?_headerRead hcounted hreadable), hlines]
  cases Diff.pieces 0 0 rest <;> rfl

theorem Hunk.exists_pieces_eq_error {h : Hunk} (hcounted : h.IsCounted)
    (hreadable : ¬ h.range.IsReadable) (rest : List (List Char)) :
    ∃ f, Diff.pieces 0 0 (h.linesRead ++ rest) = .error f := by
  obtain ⟨f, hf⟩ :=
    exists_readRange?_eq_error hreadable hcounted.oldBrief hcounted.newBrief
      (Text.firstLine h.caption)
  exact ⟨f, pieces_refused _ hf⟩

theorem pieces_hunks {hs : List Hunk} (hcounted : ∀ h ∈ hs, h.IsCounted)
    (hharmless : ∀ h ∈ hs, h.IsHarmless) (hreadable : ∀ h ∈ hs, h.range.IsReadable) :
    Diff.pieces 0 0 (hs.flatMap Hunk.linesRead) = .ok (hs.flatMap Hunk.pieces) := by
  induction hs with
  | nil => rfl
  | cons h hs ih =>
    rw [List.forall_mem_cons] at hcounted hharmless hreadable
    rw [List.flatMap_cons, Hunk.pieces_linesRead hcounted.1 hharmless.1 hreadable.1,
      ih hcounted.2 hharmless.2 hreadable.2]
    rfl

/-- The first hunk with a number that is too long stops reading. -/
theorem exists_pieces_hunks_eq_error {hs : List Hunk} (hcounted : ∀ h ∈ hs, h.IsCounted)
    (hharmless : ∀ h ∈ hs, h.IsHarmless) (hreadable : ¬ ∀ h ∈ hs, h.range.IsReadable) :
    ∃ f, Diff.pieces 0 0 (hs.flatMap Hunk.linesRead) = .error f := by
  induction hs with
  | nil => exact absurd (fun _ => nofun) hreadable
  | cons h hs ih =>
    rw [List.forall_mem_cons] at hcounted hharmless hreadable
    rw [List.flatMap_cons]
    by_cases hfirst : h.range.IsReadable
    · obtain ⟨f, hf⟩ := ih hcounted.2 hharmless.2 fun hrest => hreadable ⟨hfirst, hrest⟩
      refine ⟨f, ?_⟩
      rw [Hunk.pieces_linesRead hcounted.1 hharmless.1 hfirst, hf]
      rfl
    · exact Hunk.exists_pieces_eq_error hcounted.1 hfirst _

end Written

end RuleReview.Diff
