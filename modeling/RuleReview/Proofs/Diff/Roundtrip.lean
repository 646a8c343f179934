import Mathlib.Data.List.TakeWhile
import RuleReview.Proofs.Diff.Written

/-! Diffs read back. The lines before the hunks tell the paths, and nothing after them does;
every hunk gives a stretch of its own. Proved: a diff is read back as it was written, whatever
its lines look like, unless a number in a header has too many digits. -/

namespace RuleReview.Diff

/-! ### Paths -/

def Piece.readPaths (paths : Option (List Char) × Option (List Char)) :
    Piece → Option (List Char) × Option (List Char)
  | .outside cs => Diff.readPaths paths cs
  | _ => paths

theorem Piece.readPaths_outside (paths : Option (List Char) × Option (List Char))
    (cs : List Char) : (Piece.outside cs).readPaths paths = Diff.readPaths paths cs := rfl

theorem pathsOf_eq_foldl (ps : List Piece) :
    pathsOf ps = ps.foldl Piece.readPaths (none, none) := by
  rw [pathsOf]
  congr 1

theorem foldl_readPaths_eq_self {ps : List Piece}
    (h : ∀ p ∈ ps, ∀ paths, p.readPaths paths = paths)
    (paths : Option (List Char) × Option (List Char)) : ps.foldl Piece.readPaths paths = paths := by
  induction ps generalizing paths with
  | nil => rfl
  | cons p ps ih =>
    rw [List.forall_mem_cons] at h
    rw [List.foldl_cons, h.1, ih h.2]

theorem readPath?_letter {path : List Char} (h : Written.IsPath path) {letter : Char}
    (hletter : letter = 'a' ∨ letter = 'b') : readPath? (letter :: '/' :: path) = some path := by
  have htrim : Text.trim (letter :: '/' :: path) = letter :: '/' :: path := by
    refine Text.trim_eq_self ?_ ?_
    · rintro c ⟨⟩
      rcases hletter with rfl | rfl <;> rfl
    · intro c hc
      cases hlast : path.getLast? with
      | none =>
        obtain rfl := List.getLast?_eq_none_iff.1 hlast
        obtain rfl : '/' = c := by simpa using hc
        decide
      | some d =>
        obtain rfl : d = c := by simpa [List.getLast?_cons, hlast] using hc
        exact h.noBlankAtEnd d hlast
  have hpath : path.takeWhile (· != '\t') = path := by
    refine List.takeWhile_eq_self_iff.2 fun c hc => ?_
    rw [bne_iff_ne]
    rintro rfl
    exact h.noTab hc
  rw [readPath?, htrim]
  rcases hletter with rfl | rfl <;> simp [hpath]

theorem readPaths_oldPathLine {path : Option (List Char)} (h : ∀ p ∈ path, Written.IsPath p)
    (paths : Option (List Char) × Option (List Char)) :
    readPaths paths (pathLine "--- " 'a' path) = (path, paths.2) := by
  cases path with
  | none => rfl
  | some p =>
    rw [readPaths, pathLine, Text.takeFront?_append]
    simp only [readPath?_letter (h p rfl) (.inl rfl)]

theorem readPaths_newPathLine {path : Option (List Char)} (h : ∀ p ∈ path, Written.IsPath p)
    (paths : Option (List Char) × Option (List Char)) :
    readPaths paths (pathLine "+++ " 'b' path) = (paths.1, path) := by
  have hold (cs : List Char) : Text.takeFront? "--- ".toList ("+++ ".toList ++ cs) = none := rfl
  cases path with
  | none => rfl
  | some p =>
    rw [readPaths, pathLine, hold, Text.takeFront?_append]
    simp only [readPath?_letter (h p rfl) (.inr rfl)]

namespace Written

variable {w : Written}

theorem HasHead.foldl_readPaths (h : w.HasHead) (paths : Option (List Char) × Option (List Char)) :
    (w.head.map Piece.outside).foldl Piece.readPaths paths = (w.oldPath, w.newPath) := by
  rw [head, List.map_append, List.foldl_append, List.map_cons, List.map_singleton,
    List.foldl_cons, List.foldl_cons, List.foldl_nil, Piece.readPaths_outside,
    Piece.readPaths_outside, readPaths_oldPathLine h.oldPath, readPaths_newPathLine h.newPath]

/-- Only remarks are outside a hunk, and those tell no path. -/
theorem Hunk.readPaths_piece {h : Hunk} (hharmless : h.IsHarmless) {p : Piece} (hp : p ∈ h.pieces)
    (paths : Option (List Char) × Option (List Char)) : p.readPaths paths = paths := by
  rw [pieces, List.mem_cons, List.mem_append, List.mem_map, List.mem_map] at hp
  obtain rfl | ⟨e, -, rfl⟩ | ⟨l, hl, rfl⟩ := hp
  · rfl
  · rfl
  · exact (Entry.isRemark_of_mem_lastRemarks hharmless.1 hharmless.isRemark_of_mem_entries l
      hl).readPaths paths

end Written

/-! ### Stretches -/

theorem bodyOf_outsides (ls : List (List Char)) (ps : List Piece) :
    bodyOf (ls.map Piece.outside ++ ps) = bodyOf ps := by
  induction ls with
  | nil => rfl
  | cons l ls ih => exact ih

theorem stretches_outsides (ls : List (List Char)) (ps : List Piece) :
    stretches (ls.map Piece.outside ++ ps) = stretches ps := by
  induction ls with
  | nil => rfl
  | cons l ls ih => exact ih

theorem bodyOf_entries (es : List Entry) (ps : List Piece) :
    bodyOf (es.map Entry.piece ++ ps) = es.map (fun e => (e.kind, e.text)) ++ bodyOf ps := by
  induction es with
  | nil => rfl
  | cons e es ih => exact congrArg _ ih

theorem stretches_entries (es : List Entry) (ps : List Piece) :
    stretches (es.map Entry.piece ++ ps) = stretches ps := by
  induction es with
  | nil => rfl
  | cons e es ih => exact ih

def Hunk.stretch (h : Hunk) : Stretch where
  range := h.range
  header := h.header
  body := h.lines.map fun l => (l.kind, l.text)

theorem map_number (o n p : Nat) (body : List (Kind × List Char)) :
    (number o n p body).map (fun l => (l.kind, l.text)) = body := by
  induction body generalizing o n p with
  | nil => rfl
  | cons e body ih => simp [number, ih]

theorem map_stretch_hunksOf (countHeaders : Bool) (ps : List Piece) :
    (hunksOf countHeaders true 0 ps).map Hunk.stretch = stretches ps := by
  have hstretch (p : Nat) (s : Stretch) : (s.hunk p).stretch = s := by
    rw [Hunk.stretch, Stretch.hunk, map_number]
  refine List.ext_getElem? fun i => ?_
  rw [List.getElem?_map, getElem?_hunksOf, Option.map_map]
  simp [Function.comp_def, hstretch]

namespace Written

variable {w : Written}

def Hunk.stretch (h : Hunk) : Stretch where
  range := h.range
  header := h.header
  body := h.rows.map fun r => (r.kind, r.text)

/-- The stretch that is read, in which a text ends where it breaks. -/
def Hunk.stretchRead (h : Hunk) : Stretch where
  range := h.range
  header := h.headerRead
  body := h.entries.map fun e => (e.kind, e.text)

theorem Hunk.stretchRead_of_isPlain {h : Hunk} (hcaption : Text.IsPlain h.caption)
    (hrows : ∀ r ∈ h.rows, Text.IsPlain r.text) : h.stretchRead = h.stretch := by
  have hbody : h.entries.map (fun e => (e.kind, e.text)) =
      h.rows.map fun r => (r.kind, r.text) := by
    rw [entries, List.map_map]
    refine List.map_congr_left fun r hr => ?_
    simp [Row.entry, Text.firstLine_of_isPlain (hrows r hr)]
  rw [stretchRead, stretch, headerRead, header, Text.firstLine_of_isPlain hcaption, hbody]

theorem bodyOf_hunks (hs : List Hunk) : bodyOf (hs.flatMap Hunk.pieces) = [] := by
  cases hs with
  | nil => rfl
  | cons h hs => rfl

theorem stretches_hunks (hs : List Hunk) :
    stretches (hs.flatMap Hunk.pieces) = hs.map Hunk.stretchRead := by
  induction hs with
  | nil => rfl
  | cons h hs ih =>
    rw [List.flatMap_cons, Hunk.pieces, List.cons_append, stretches, List.append_assoc,
      bodyOf_entries, bodyOf_outsides, bodyOf_hunks, stretches_entries, stretches_outsides, ih,
      List.append_nil]
    rfl

/-! ### Reading -/

def linesRead (w : Written) : List (List Char) := w.head ++ w.hunks.flatMap Hunk.linesRead

def pieces (w : Written) : List Piece :=
  w.head.map Piece.outside ++ w.hunks.flatMap Hunk.pieces

theorem HasHead.hasPlainHead (h : w.HasHead) : w.HasPlainHead := by
  have hpath {marks : String} (hmarks : Text.IsPlain marks.toList) (letter : Char)
      (hletter : Text.IsPlain [letter, '/']) {path : Option (List Char)}
      (hpath : ∀ p ∈ path, IsPath p) : Text.IsPlain (pathLine marks letter path) := by
    cases path with
    | none => exact Text.isPlain_append.2 ⟨hmarks, by decide⟩
    | some p =>
      exact Text.isPlain_append.2 ⟨hmarks, Text.isPlain_append.2 ⟨hletter, (hpath p rfl).isPlain⟩⟩
  have hhead {marks : String} {c : Char} (hmarks : marks.toList.head? = some c) (letter : Char)
      (path : Option (List Char)) : (pathLine marks letter path).head? = some c := by
    cases path <;> simp [pathLine, hmarks]
  intro l hl
  rw [head, List.mem_append, List.mem_append, List.mem_map] at hl
  obtain (⟨paths, hpaths, rfl⟩ | hl) | hl := hl
  · obtain ⟨hold, hnew⟩ := h.title paths (Option.mem_toList.1 hpaths)
    have hfront : Text.IsPlain "diff --git a/".toList := by decide +kernel
    have hbetween : Text.IsPlain " b/".toList := by decide
    have hhead : (titleLine paths).head? = some 'd' := by simp [titleLine_eq]
    refine ⟨?_, not_isHeader_of_head? hhead (by decide)⟩
    simp only [titleLine_eq, Text.isPlain_append]
    exact ⟨⟨⟨hfront, hold⟩, hbetween⟩, hnew⟩
  · exact h.others l hl
  · obtain rfl | rfl : l = pathLine "--- " 'a' w.oldPath ∨ l = pathLine "+++ " 'b' w.newPath := by
      simpa using hl
    · exact ⟨hpath (by decide) 'a' (by decide) h.oldPath,
        not_isHeader_of_head? (hhead rfl 'a' _) (by decide)⟩
    · exact ⟨hpath (by decide) 'b' (by decide) h.newPath,
        not_isHeader_of_head? (hhead rfl 'b' _) (by decide)⟩

theorem breakLines_head (h : w.HasPlainHead) :
    (w.head.flatMap fun l => Text.firstLine l :: Text.laterLines l) = w.head := by
  have hline : ∀ l ∈ w.head, Text.firstLine l :: Text.laterLines l = [l] := by
    intro l hl
    rw [Text.firstLine_of_isPlain (h l hl).1, Text.laterLines_of_isPlain (h l hl).1]
  rw [List.flatMap_congr hline, List.flatMap_singleton']

/-- A text breaks into the lines of its head and of its hunks. -/
theorem breakLines_text (h : w.HasPlainHead) :
    Text.breakLines (w.text true).toList = w.linesRead := by
  rw [text, if_pos rfl, String.toList_ofList, Text.breakLines_unlines, lines, List.flatMap_append,
    breakLines_head h, List.flatMap_assoc, linesRead]
  congr 1
  exact List.flatMap_congr fun hunk _ => hunk.lines_broken

theorem pieces_linesRead (hhead : w.HasPlainHead) (hcounted : ∀ h ∈ w.hunks, h.IsCounted)
    (hharmless : ∀ h ∈ w.hunks, h.IsHarmless) (hreadable : w.IsReadable) :
    Diff.pieces 0 0 w.linesRead = .ok w.pieces := by
  rw [linesRead, pieces_outsides fun l hl => (hhead l hl).2,
    pieces_hunks hcounted hharmless hreadable]
  rfl

theorem exists_pieces_linesRead_eq_error (hhead : w.HasPlainHead)
    (hcounted : ∀ h ∈ w.hunks, h.IsCounted) (hharmless : ∀ h ∈ w.hunks, h.IsHarmless)
    (hreadable : ¬ w.IsReadable) : ∃ f, Diff.pieces 0 0 w.linesRead = .error f := by
  obtain ⟨f, hf⟩ := exists_pieces_hunks_eq_error hcounted hharmless hreadable
  refine ⟨f, ?_⟩
  rw [linesRead, pieces_outsides fun l hl => (hhead l hl).2, hf]
  rfl

theorem pathsOf_pieces (hhead : w.HasHead) (hharmless : ∀ h ∈ w.hunks, h.IsHarmless) :
    pathsOf w.pieces = (w.oldPath, w.newPath) := by
  rw [pathsOf_eq_foldl, pieces, List.foldl_append, hhead.foldl_readPaths]
  refine foldl_readPaths_eq_self (fun p hp => ?_) _
  obtain ⟨h, hh, hp⟩ := List.mem_flatMap.1 hp
  exact Hunk.readPaths_piece (hharmless h hh) hp

theorem stretches_pieces (w : Written) : stretches w.pieces = w.hunks.map Hunk.stretchRead := by
  rw [pieces, stretches_outsides, stretches_hunks]

/-! ### Texts that are lines -/

theorem IsWellFormed.isHarmless (h : w.IsWellFormed) : ∀ hunk ∈ w.hunks, hunk.IsHarmless :=
  fun hunk hh => ⟨isHarmless_of_isPlain (h.caption hunk hh),
    fun r hr => isHarmless_of_isPlain (h.rows hunk hh r hr)⟩

theorem Row.isPlain_of_mem_lines {r : Row} (h : Text.IsPlain r.text) {l : List Char}
    (hl : l ∈ r.lines) : Text.IsPlain l ∧ l ≠ [] := by
  have hmissing : Text.IsPlain missingEnd := by decide +kernel
  have hmark : Text.IsPlain [r.kind.mark] := by cases r.kind <;> decide
  rcases List.mem_cons.1 hl with rfl | hl
  · exact ⟨Text.isPlain_append.2 ⟨hmark, h⟩, List.cons_ne_nil _ _⟩
  · cases hunended : r.unended with
    | false => simp [hunended] at hl
    | true =>
      obtain rfl : l = missingEnd := by simpa [hunended] using hl
      exact ⟨hmissing, List.ne_nil_of_mem (List.mem_of_mem_head? isRemark_missingEnd)⟩

theorem Hunk.isPlain_of_mem_lines {h : Hunk} (hcaption : Text.IsPlain h.caption)
    (hrows : ∀ r ∈ h.rows, Text.IsPlain r.text) {l : List Char} (hl : l ∈ h.lines) :
    Text.IsPlain l ∧ l ≠ [] := by
  rcases List.mem_cons.1 hl with rfl | hl
  · rw [header, rangeHeader_eq_append]
    refine ⟨Text.isPlain_append.2 ⟨isPlain_rangeHeader _ _ _, hcaption⟩, ?_⟩
    simp [rangeHeader, headerText]
  · obtain ⟨r, hr, hl⟩ := List.mem_flatMap.1 hl
    exact Row.isPlain_of_mem_lines (hrows r hr) hl

/-- The last line is the one with the new path or one of a hunk, and it is not empty. -/
theorem IsWellFormed.exists_last (h : w.IsWellFormed) :
    ∃ ls l, w.lines = ls ++ [l] ∧ Text.IsPlain l ∧ l ≠ [] := by
  have hnew : Text.IsPlain (pathLine "+++ " 'b' w.newPath) :=
    (h.hasPlainHead _ (by simp [head])).1
  have hnonempty : pathLine "+++ " 'b' w.newPath ≠ [] := by
    cases w.newPath <;> simp [pathLine]
  obtain hnil | ⟨ls, l, hlast⟩ := List.eq_nil_or_concat' (w.hunks.flatMap Hunk.lines)
  · refine ⟨w.title.toList.map titleLine ++ w.others ++ [pathLine "--- " 'a' w.oldPath], _, ?_,
      hnew, hnonempty⟩
    simp [lines, head, hnil]
  · have hl : l ∈ w.hunks.flatMap Hunk.lines := by simp [hlast]
    obtain ⟨hunk, hh, hl⟩ := List.mem_flatMap.1 hl
    refine ⟨w.head ++ ls, l, ?_, Hunk.isPlain_of_mem_lines (h.caption hunk hh) (h.rows hunk hh) hl⟩
    rw [lines, hlast, List.append_assoc]

theorem IsWellFormed.breakLines_text (h : w.IsWellFormed) (lastFeed : Bool) :
    Text.breakLines (w.text lastFeed).toList = w.linesRead := by
  rw [← Written.breakLines_text h.hasPlainHead]
  cases lastFeed with
  | true => rfl
  | false =>
    obtain ⟨ls, l, hlines, hl, hne⟩ := h.exists_last
    simp only [text, Bool.false_eq_true, if_false, if_true, String.toList_ofList, hlines]
    exact Text.breakLines_dropLast_unlines ls hl hne

theorem IsWellFormed.stretches_pieces (h : w.IsWellFormed) :
    stretches w.pieces = w.hunks.map Hunk.stretch := by
  rw [Written.stretches_pieces]
  exact List.map_congr_left fun hunk hh =>
    Hunk.stretchRead_of_isPlain (h.caption hunk hh) (h.rows hunk hh)

theorem IsWellFormed.read_of_isReadable (h : w.IsWellFormed) (hreadable : w.IsReadable)
    (lastFeed countHeaders : Bool) :
    read countHeaders (w.text lastFeed) = .ok (ofPieces countHeaders w.pieces) := by
  rw [read, h.breakLines_text,
    pieces_linesRead h.hasPlainHead h.isCounted h.isHarmless hreadable]
  rfl

theorem IsWellFormed.read_of_not_isReadable (h : w.IsWellFormed) (hreadable : ¬ w.IsReadable)
    (lastFeed countHeaders : Bool) : ∃ digits, Decimal.maxDigits < digits ∧
      read countHeaders (w.text lastFeed) = .error (.tooManyDigits digits) := by
  obtain ⟨f, hf⟩ :=
    exists_pieces_linesRead_eq_error h.hasPlainHead h.isCounted h.isHarmless hreadable
  obtain ⟨cs, -, hcs⟩ := exists_refused_of_pieces hf
  obtain ⟨_, _, _, -, -, ds, -, hlong, rfl⟩ := exists_long_of_readRange? hcs
  refine ⟨ds.length, hlong, ?_⟩
  rw [read, h.breakLines_text, hf]
  rfl

end Written

/-- A diff is read back as it was written if every number in its headers has few enough
digits, and else it is not read. -/
theorem read_text {w : Written} (hw : w.IsWellFormed) (lastFeed countHeaders : Bool) :
    (w.IsReadable → ∃ d, read countHeaders (w.text lastFeed) = .ok d ∧ d.oldPath = w.oldPath ∧
      d.path = w.newPath ∧ d.hunks.map Hunk.stretch = w.hunks.map Written.Hunk.stretch) ∧
    (¬ w.IsReadable → ∃ digits, Decimal.maxDigits < digits ∧
      read countHeaders (w.text lastFeed) = .error (.tooManyDigits digits)) := by
  refine ⟨fun hreadable => ?_, fun hreadable =>
    hw.read_of_not_isReadable hreadable lastFeed countHeaders⟩
  have hpaths := Written.pathsOf_pieces hw.toHasHead hw.isHarmless
  refine ⟨_, hw.read_of_isReadable hreadable lastFeed countHeaders, ?_, ?_, ?_⟩
  · rw [ofPieces, hpaths]
  · rw [ofPieces, hpaths]
  · rw [ofPieces, map_stretch_hunksOf, hw.stretches_pieces]

/-- A diff whose lines look like headers and paths. -/
def lookalikes : Written where
  title := some ("x".toList, "y".toList)
  others := ["index 1..2".toList]
  oldPath := some "x".toList
  newPath := none
  hunks :=
    [{ range := ⟨1, 2, 1, 1⟩, caption := " @@".toList, newBrief := true
       rows := [⟨.removed, "-- x".toList, false⟩, ⟨.added, "++ x".toList, true⟩,
         ⟨.removed, "@@ -1 +1 @@".toList, true⟩] },
     { range := ⟨7, 0, 7, 0⟩, caption := [], rows := [] },
     { range := ⟨9, 1, 9, 1⟩, caption := [], oldBrief := true
       rows := [⟨.context, "diff --git a/x b/y".toList, false⟩] }]

theorem isWellFormed_lookalikes : lookalikes.IsWellFormed where
  title := by decide +kernel
  others := by decide +kernel
  oldPath := by
    rintro _ ⟨⟩
    decide
  newPath := nofun
  isCounted := by
    intro h hh
    constructor <;> revert h <;> decide +kernel
  caption := by decide +kernel
  rows := by decide +kernel

theorem isReadable_lookalikes : lookalikes.IsReadable := by
  intro h hh
  have hsmall : h.range.oldStart < 10 ∧ h.range.oldCount < 10 ∧ h.range.newStart < 10 ∧
      h.range.newCount < 10 := by
    revert h
    decide
  exact h.range.isReadable_of_lt hsmall.1 hsmall.2.1 hsmall.2.2.1 hsmall.2.2.2

theorem read_text_lookalikes :
    lookalikes.IsWellFormed ∧ lookalikes.IsReadable ∧
      ∃ d, read false (lookalikes.text false) = .ok d ∧ d.oldPath = lookalikes.oldPath ∧
        d.path = lookalikes.newPath ∧
        d.hunks.map Hunk.stretch = lookalikes.hunks.map Written.Hunk.stretch :=
  ⟨isWellFormed_lookalikes, isReadable_lookalikes,
    (read_text isWellFormed_lookalikes false false).1 isReadable_lookalikes⟩

/-- A hunk that starts after more lines than a number of readable length counts. -/
def farAway : Written where
  oldPath := none
  newPath := none
  hunks :=
    [{ range := ⟨10 ^ Decimal.maxDigits, 0, 1, 1⟩, caption := []
       rows := [⟨.added, ['a'], false⟩] }]

theorem isWellFormed_farAway : farAway.IsWellFormed where
  title := nofun
  others := nofun
  oldPath := nofun
  newPath := nofun
  isCounted := by
    intro h hh
    obtain rfl := List.mem_singleton.1 hh
    exact ⟨rfl, rfl, nofun, nofun⟩
  caption := by
    intro h hh
    obtain rfl := List.mem_singleton.1 hh
    exact nofun
  rows := by
    intro h hh
    obtain rfl := List.mem_singleton.1 hh
    decide

theorem not_read_farAway : farAway.IsWellFormed ∧
    ∀ lastFeed countHeaders d, read countHeaders (farAway.text lastFeed) ≠ .ok d := by
  have hreadable : ¬ farAway.IsReadable := by
    intro h
    exact Nat.lt_irrefl _ (h _ List.mem_cons_self).1
  refine ⟨isWellFormed_farAway, fun lastFeed countHeaders d hd => ?_⟩
  obtain ⟨digits, -, herror⟩ :=
    isWellFormed_farAway.read_of_not_isReadable hreadable lastFeed countHeaders
  rw [herror] at hd
  cases hd

end RuleReview.Diff
