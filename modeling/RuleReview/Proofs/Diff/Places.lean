import RuleReview.Proofs.Diff.Roundtrip
import RuleReview.Rule.Match

/-! Whether the position of a line in a diff is the place where the line is printed. Patterns
find lines between line feeds, while a diff is broken at other characters too, and what comes
after such a character is taken for a line of its own. Proved: positions are places for all
diffs whose texts are of a kind exactly if no text of that kind breaks, but for remarks. -/

namespace RuleReview.Diff

/-! ### Numbers and positions in order -/

/-- Numbers counted on from a start, for the lines of a side. -/
def numbersFrom (onSide : Kind → Bool) : Nat → List Kind → List (Option Nat)
  | _, [] => []
  | n, kind :: kinds =>
    (if onSide kind then some n else none) :: numbersFrom onSide (n + (onSide kind).toNat) kinds

theorem idxOf?_numbersFrom_append {onSide : Kind → Bool} (n : Nat) {kinds : List Kind} {i : Nat}
    (h : kinds.findIdx? onSide = some i) (more : List (Option Nat)) :
    (numbersFrom onSide n kinds ++ more).idxOf? (some n) = some i := by
  induction kinds generalizing i with
  | nil => cases h
  | cons kind kinds ih =>
    rw [numbersFrom, List.cons_append, List.idxOf?_cons]
    rw [List.findIdx?_cons] at h
    cases hkind : onSide kind with
    | true => simpa [hkind] using h
    | false =>
      rw [hkind] at h
      obtain ⟨j, hj, rfl⟩ := Option.map_eq_some_iff.1 (by simpa using h)
      simp [ih hj]

theorem map_newLine_number (o n p : Nat) (body : List (Kind × List Char)) :
    (number o n p body).map (·.newLine) = numbersFrom Kind.isNew n (body.map (·.1)) := by
  induction body generalizing o n p with
  | nil => rfl
  | cons e body ih => rw [number, List.map_cons, ih]; rfl

theorem map_position_number (o n p : Nat) (body : List (Kind × List Char)) :
    (number o n p body).map (·.position) = List.range' (p + 1) body.length := by
  induction body generalizing o n p with
  | nil => rfl
  | cons e body ih => rw [number, List.map_cons, ih, List.length_cons, List.range'_succ]

/-- The numbers of the lines of a stretch in the new version. -/
def Stretch.newNumbers (s : Stretch) : List (Option Nat) :=
  numbersFrom Kind.isNew s.range.newStart (s.body.map (·.1))

theorem map_newLine_lines (countHeaders : Bool) (ps : List Piece) :
    (ofPieces countHeaders ps).lines.map (·.newLine) =
      (stretches ps).flatMap Stretch.newNumbers := by
  have hhunk (h : Hunk) (hh : h ∈ hunksOf countHeaders true 0 ps) :
      h.lines.map (·.newLine) = h.stretch.newNumbers := by
    obtain ⟨i, hi⟩ := List.mem_iff_getElem?.1 hh
    rw [getElem?_hunksOf, Option.map_eq_some_iff] at hi
    obtain ⟨s, -, rfl⟩ := hi
    rw [Stretch.newNumbers, Hunk.stretch, Stretch.hunk, map_newLine_number, map_number]
  rw [lines, List.map_flatMap, ofPieces, List.flatMap_congr hhunk, ← List.flatMap_map,
    map_stretch_hunksOf]

theorem map_position_hunksOf (first : Bool) (p : Nat) (ps : List Piece) :
    ((hunksOf false first p ps).flatMap (·.lines)).map (·.position) =
      List.range' (p + 1) ((hunksOf false first p ps).flatMap (·.lines)).length := by
  induction ps generalizing first p with
  | nil => rfl
  | cons piece ps ih =>
    cases piece with
    | body => exact ih first p
    | outside => exact ih first p
    | opening range header =>
      rw [hunksOf, List.flatMap_cons, List.map_append, List.length_append, ih]
      simp only [Bool.false_and, Bool.false_eq_true, if_false, map_position_number, length_number]
      rw [← List.range'_append_1, Nat.add_right_comm]

theorem find?_newLine {ls : List Line} {p : Nat}
    (h : ls.map (·.position) = List.range' (p + 1) ls.length) (n : Nat) :
    (ls.find? (·.newLine == some n)).map (·.position) =
      ((ls.map (·.newLine)).idxOf? (some n)).map (p + 1 + ·) := by
  induction ls generalizing p with
  | nil => rfl
  | cons l ls ih =>
    rw [List.map_cons, List.length_cons, List.range'_succ, List.cons.injEq] at h
    rw [List.find?_cons, List.map_cons, List.idxOf?_cons]
    cases hl : l.newLine == some n with
    | true => simp [h.1]
    | false =>
      rw [if_neg (by simp), Option.map_map]
      simp only [ih h.2]
      congr 1
      funext i
      simp only [Function.comp_apply]
      omega

/-- A line is at the first place where its number is. -/
theorem positionOf?_ofPieces (ps : List Piece) (n : Nat) :
    (ofPieces false ps).positionOf? n =
      (((stretches ps).flatMap Stretch.newNumbers).idxOf? (some n)).map (· + 1) := by
  have hpositions : (ofPieces false ps).lines.map (·.position) =
      List.range' (0 + 1) (ofPieces false ps).lines.length := map_position_hunksOf true 0 ps
  rw [positionOf?, find?_newLine hpositions, map_newLine_lines]
  simp only [Nat.zero_add, Nat.add_comm 1]

/-! ### Diffs of two texts -/

namespace Written

def Hunk.texts (h : Hunk) (onSide : Kind → Bool) : List (List Char) :=
  (h.rows.filter (onSide ·.kind)).map (·.text)

/-- A hunk that shows rows of two texts: those of either one from the start on. -/
structure Hunk.Shows (old new : List Char) (h : Hunk) : Prop extends IsCounted h where
  oldTexts : h.texts Kind.isOld <+: (Text.rows old).drop (h.range.oldStart - 1)
  newTexts : h.texts Kind.isNew <+: (Text.rows new).drop (h.range.newStart - 1)
  oldStart : 0 < h.range.oldCount → 0 < h.range.oldStart
  newStart : 0 < h.range.newCount → 0 < h.range.newStart
  caption : '\n' ∉ h.caption

/-- A diff of two texts: its hunks show rows of both, one hunk after the other. -/
structure IsDiffOf (old new : List Char) (w : Written) : Prop where
  hasPlainHead : w.HasPlainHead
  shows : ∀ h ∈ w.hunks, h.Shows old new
  apart : w.hunks.Pairwise fun g h =>
    g.range.oldStart + g.range.oldCount ≤ h.range.oldStart ∧
      g.range.newStart + g.range.newCount ≤ h.range.newStart

/-- A diff whose texts are all of a kind. -/
def TextsIn (P : List Char → Prop) (w : Written) : Prop :=
  ∀ h ∈ w.hunks, P h.caption ∧ ∀ r ∈ h.rows, P r.text

/-- The line of the new text that each row carries, if any. -/
def newNumbers (w : Written) : List (Option Nat) :=
  w.hunks.flatMap fun h => numbersFrom Kind.isNew h.range.newStart (h.rows.map (·.kind))

/-- The place of the row that carries a line of the new text, counted from one. -/
def place? (w : Written) (n : Nat) : Option Nat := (w.newNumbers.idxOf? (some n)).map (· + 1)

variable {w : Written}

/-- A row that is shown is one row of a text. -/
theorem Hunk.Shows.newline_not_mem {old new : List Char} {h : Hunk} (hshows : h.Shows old new)
    {r : Row} (hr : r ∈ h.rows) : '\n' ∉ r.text := by
  have hside {onSide : Kind → Bool} (hside : onSide r.kind = true) : r.text ∈ h.texts onSide :=
    List.mem_map.2 ⟨r, List.mem_filter.2 ⟨hr, hside⟩, rfl⟩
  have hrows : r.text ∈ Text.rows old ∨ r.text ∈ Text.rows new := by
    cases hold : r.kind.isOld with
    | true => exact .inl (List.mem_of_mem_drop (hshows.oldTexts.subset (hside hold)))
    | false =>
      have hnew : r.kind.isNew = true := by
        cases hkind : r.kind <;> simp [hkind, Kind.isOld, Kind.isNew] at hold ⊢
      exact .inr (List.mem_of_mem_drop (hshows.newTexts.subset (hside hnew)))
  exact hrows.elim Text.not_mem_of_mem_splitOn Text.not_mem_of_mem_splitOn

theorem stretchRead_newNumbers (h : Hunk) : h.stretchRead.newNumbers =
    numbersFrom Kind.isNew h.range.newStart (h.rows.map (·.kind)) := by
  rw [Stretch.newNumbers, Hunk.stretchRead, Hunk.entries, List.map_map, List.map_map]
  rfl

theorem positionOf?_pieces (w : Written) (n : Nat) :
    (ofPieces false w.pieces).positionOf? n = w.place? n := by
  rw [positionOf?_ofPieces, stretches_pieces, List.flatMap_map, place?, newNumbers]
  simp only [stretchRead_newNumbers]

end Written

/-- Whether some pattern has a match on a line of a text. -/
def IsReported (code : List Char) (n : Nat) : Prop :=
  ∃ p, ∃ m ∈ Rule.findMatches p code, m.line = n

/-- A diff that is read with the place of every reported line of the new text as its position. -/
def HasPlaces (new : List Char) (w : Written) : Prop :=
  ∃ d, read false (w.text true) = .ok d ∧ ∀ n, IsReported new n → d.positionOf? n = w.place? n

open Written in
/-- A diff whose texts are harmless has its places if it is read. -/
theorem hasPlaces_iff_isReadable {w : Written} (hhead : w.HasPlainHead)
    (hcounted : ∀ h ∈ w.hunks, h.IsCounted) (hharmless : ∀ h ∈ w.hunks, h.IsHarmless)
    (new : List Char) : HasPlaces new w ↔ w.IsReadable := by
  constructor
  · rintro ⟨d, hd, -⟩
    by_contra hreadable
    obtain ⟨f, hf⟩ := exists_pieces_linesRead_eq_error hhead hcounted hharmless hreadable
    rw [read, breakLines_text hhead, hf] at hd
    cases hd
  · intro hreadable
    refine ⟨ofPieces false w.pieces, ?_, fun n _ => w.positionOf?_pieces n⟩
    rw [read, breakLines_text hhead, pieces_linesRead hhead hcounted hharmless hreadable]
    rfl

/-! ### Texts that break -/

theorem readBody?_eq_none_iff {cs : List Char} : readBody? cs = none ↔ IsRemark cs := by
  fun_cases readBody? cs with
  | case1 rest => exact ⟨fun _ => rfl, fun _ => rfl⟩
  | case2 text => simp [IsRemark]
  | case3 text => simp [IsRemark]
  | case4 cs hremark hadded hremoved =>
    refine ⟨nofun, fun h => ?_⟩
    obtain ⟨rest, rfl⟩ := List.head?_eq_some_iff.1 h
    exact absurd rfl (hremark rest)

/-- What a text breaks into that is taken for lines of a hunk. -/
def laterBody (cs : List Char) : List (Kind × List Char) :=
  (Text.laterLines cs).filterMap readBody?

theorem laterBody_eq_nil_iff {cs : List Char} : laterBody cs = [] ↔ IsHarmless cs := by
  rw [laterBody, List.filterMap_eq_nil_iff]
  exact forall₂_congr fun l _ => readBody?_eq_none_iff

theorem Entry.filterMap_readBody?_lines (es : List Entry) :
    (es.flatMap Entry.lines).filterMap readBody? =
      es.flatMap fun e => (e.kind, e.text) :: e.remarks.filterMap readBody? := by
  induction es with
  | nil => rfl
  | cons e es ih =>
    rw [List.flatMap_cons, Entry.lines, List.cons_append,
      List.filterMap_cons_some (Entry.readBody?_mark e.kind e.text), List.filterMap_append, ih]
    rfl

/-- The index of the first line of the new version. -/
def firstNew? (body : List (Kind × List Char)) : Option Nat := body.findIdx? (·.1.isNew)

/-- A hunk that lacks one new line takes every line up to the first one that is new. -/
theorem Reads.firstNew?_bodyOf {o n : Nat} {ls : List (List Char)} {ps : List Piece}
    (h : Reads o n ls ps) (hn : n = 1) :
    firstNew? (bodyOf ps) = firstNew? (ls.filterMap readBody?) := by
  induction h with
  | done => rfl
  | remark _ hbody _ ih => rw [List.filterMap_cons_none hbody, ih hn]
  | body _ hbody _ ih =>
    rw [List.filterMap_cons_some hbody, bodyOf, firstNew?, firstNew?, List.findIdx?_cons,
      List.findIdx?_cons]
    split
    next => rfl
    next hold => exact congrArg (Option.map (· + 1)) (ih (by simp [hn, hold]))
  | opening => cases hn
  | outside => cases hn

namespace Written

/-- A hunk that replaces a line and some empty ones by the letter x. -/
def replacement (t : List Char) (empties : Nat) : Hunk where
  range := ⟨1, empties + 1, 1, 1⟩
  caption := []
  rows := ⟨.removed, t, false⟩ :: (List.replicate empties ⟨.removed, [], false⟩ ++
    [⟨.added, ['x'], false⟩])

/-- The diff with this hunk alone. -/
def replacing (t : List Char) (empties : Nat) : Written where
  oldPath := some ['x']
  newPath := some ['x']
  hunks := [replacement t empties]

/-- The old text of such a diff. -/
def replaced (t : List Char) (empties : Nat) : List Char :=
  t ++ '\n' :: List.replicate empties '\n'

theorem rows_replicate_newline (n : Nat) :
    Text.rows (List.replicate n '\n') = List.replicate (n + 1) [] := by
  induction n with
  | zero => rfl
  | succ n ih =>
    rw [List.replicate_succ, Text.rows, Text.splitOn_cons, if_pos rfl, ← Text.rows, ih]
    rfl

theorem hasPlainHead_replacing (t : List Char) (empties : Nat) :
    (replacing t empties).HasPlainHead := by
  have hpath : ∀ path ∈ some ['x'], IsPath path := by
    rintro _ ⟨⟩
    decide
  exact HasHead.hasPlainHead { title := nofun, others := nofun, oldPath := hpath, newPath := hpath }

theorem isCounted_replacement (t : List Char) (empties : Nat) :
    (replacement t empties).IsCounted := by
  refine ⟨?_, ?_, nofun, nofun⟩
  · simp [replacement, List.countP_replicate, Kind.isOld]
  · simp [replacement, List.countP_replicate, Kind.isNew]

theorem isDiffOf_replacing {t : List Char} (ht : '\n' ∉ t) (empties : Nat) :
    (replacing t empties).IsDiffOf (replaced t empties) ['x', '\n'] := by
  have hrows : Text.rows (replaced t empties) = t :: List.replicate (empties + 1) [] := by
    rw [replaced, Text.rows, Text.splitOn_append ht, ← Text.rows, rows_replicate_newline]
  refine { hasPlainHead := hasPlainHead_replacing t empties, shows := ?_, apart := ?_ }
  · intro h hh
    obtain rfl := List.mem_singleton.1 hh
    refine { toIsCounted := isCounted_replacement t empties, oldTexts := ?_, newTexts := ?_,
             oldStart := fun _ => Nat.one_pos, newStart := fun _ => Nat.one_pos,
             caption := List.not_mem_nil }
    · rw [hrows]
      simp [replacement, Hunk.texts, Kind.isOld, List.replicate_succ']
    · simp [replacement, Hunk.texts, Kind.isNew, Text.rows, Text.splitOn, Text.consToFirst]
  · exact List.pairwise_singleton _ _

theorem textsIn_replacing {P : List Char → Prop} (hempty : P []) (hx : P ['x']) {t : List Char}
    (ht : P t) (empties : Nat) : (replacing t empties).TextsIn P := by
  intro h hh
  obtain rfl := List.mem_singleton.1 hh
  refine ⟨hempty, fun r hr => ?_⟩
  obtain rfl | ⟨-, rfl⟩ | rfl : r = ⟨.removed, t, false⟩ ∨
      (empties ≠ 0 ∧ r = ⟨.removed, [], false⟩) ∨ r = ⟨.added, ['x'], false⟩ := by
    simpa [replacement] using hr
  · exact ht
  · exact hempty
  · exact hx

theorem isReadable_replacing (t : List Char) {empties : Nat} (hfew : empties + 1 < 10) :
    (replacing t empties).IsReadable := by
  intro h hh
  obtain rfl := List.mem_singleton.1 hh
  have hone : 1 < 10 := by decide
  exact Range.isReadable_of_lt _ hone hfew hone hone

theorem place?_replacing (t : List Char) (empties : Nat) :
    (replacing t empties).place? 1 = some (empties + 2) := by
  have hfirst : ((.removed :: (List.replicate empties .removed ++ [.added]) : List Kind)).findIdx?
      Kind.isNew = some (empties + 1) := by
    simp [List.findIdx?_append, List.findIdx?_cons, List.findIdx?_replicate, Kind.isNew]
  have hplace := idxOf?_numbersFrom_append 1 hfirst []
  simp only [List.append_nil] at hplace
  simp [place?, newNumbers, replacing, replacement, hplace]

theorem filterMap_readBody?_replacement (t : List Char) (empties : Nat) :
    ((replacement t empties).entries.flatMap Entry.lines).filterMap readBody? =
      (.removed, Text.firstLine t) :: (laterBody t ++
        (List.replicate empties (.removed, []) ++ [(.added, ['x'])])) := by
  have hx : Text.IsPlain ['x'] := by decide
  have hentries : (replacement t empties).entries =
      ⟨.removed, Text.firstLine t, Text.laterLines t⟩ ::
        (List.replicate empties ⟨.removed, [], []⟩ ++ [⟨.added, ['x'], []⟩]) := by
    simp [replacement, Hunk.entries, Row.entry, Text.firstLine_of_isPlain hx,
      Text.laterLines_of_isPlain hx]
  rw [Entry.filterMap_readBody?_lines, hentries]
  simp [laterBody, List.flatMap_replicate]

/-- The pieces of such a diff after its header are those of the rows and what they break into. -/
theorem exists_reads_replacing {t : List Char} {empties : Nat}
    (hreadable : (replacing t empties).IsReadable) {d : Diff}
    (h : read false ((replacing t empties).text true) = .ok d) :
    ∃ ps, Reads (empties + 1) 1 ((replacement t empties).entries.flatMap Entry.lines) ps ∧
      d = ofPieces false ((replacing t empties).head.map Piece.outside ++
        .opening (replacement t empties).range (replacement t empties).headerRead :: ps) := by
  have hhead := hasPlainHead_replacing t empties
  have hlines : (replacing t empties).hunks.flatMap Hunk.linesRead =
      (replacement t empties).headerRead :: (replacement t empties).entries.flatMap Entry.lines :=
    List.append_nil _
  have hrange := Hunk.readRange?_headerRead (isCounted_replacement t empties)
    (hreadable _ List.mem_cons_self)
  rw [read, breakLines_text hhead, linesRead, hlines,
    pieces_outsides fun l hl => (hhead l hl).2, pieces_opening _ hrange] at h
  obtain ⟨all, hall, rfl⟩ := Stop.map_eq_ok.1 h
  obtain ⟨hunk, hhunk, rfl⟩ := Stop.map_eq_ok.1 hall
  obtain ⟨ps, hps, rfl⟩ := Stop.map_eq_ok.1 hhunk
  exact ⟨ps, reads_of_pieces hps, rfl⟩

/-- The new line of such a diff is read to be after what the replaced text breaks into, up to
the first line of the new version. -/
theorem positionOf?_replacing {t : List Char} {empties : Nat}
    (hreadable : (replacing t empties).IsReadable) {d : Diff}
    (h : read false ((replacing t empties).text true) = .ok d) :
    d.positionOf? 1 = (firstNew? (laterBody t ++
      (List.replicate empties (.removed, []) ++ [(.added, ['x'])]))).map (· + 2) := by
  obtain ⟨ps, hreads, rfl⟩ := exists_reads_replacing hreadable h
  obtain ⟨i, hi⟩ : ∃ i, firstNew? (laterBody t ++
      (List.replicate empties (.removed, []) ++ [(.added, ['x'])])) = some i := by
    rw [← Option.isSome_iff_exists, firstNew?, List.findIdx?_isSome]
    simp [Kind.isNew]
  have hfirst := hreads.firstNew?_bodyOf rfl
  rw [filterMap_readBody?_replacement] at hfirst
  have hkinds : ((bodyOf ps).map (·.1)).findIdx? Kind.isNew = some (i + 1) := by
    rw [List.findIdx?_map]
    refine hfirst.trans ?_
    rw [firstNew?, List.findIdx?_cons, if_neg (by simp [Kind.isNew]), ← firstNew?, hi]
    rfl
  have hplace := idxOf?_numbersFrom_append 1 hkinds ((stretches ps).flatMap Stretch.newNumbers)
  rw [positionOf?_ofPieces, stretches_outsides, stretches, List.flatMap_cons, hi]
  exact congrArg (Option.map (· + 1)) hplace

/-- If such a diff has its places, the new line is the first one of the new version. -/
theorem firstNew?_of_hasPlaces {t : List Char} {empties : Nat} (hfew : empties + 1 < 10)
    (h : HasPlaces ['x', '\n'] (replacing t empties)) :
    firstNew? (laterBody t ++ (List.replicate empties (.removed, []) ++ [(.added, ['x'])])) =
      some empties := by
  have hreported : IsReported ['x', '\n'] 1 := ⟨.set ⟨.exact, true, []⟩, by decide⟩
  obtain ⟨d, hd, hpositions⟩ := h
  have hposition := hpositions 1 hreported
  rw [positionOf?_replacing (isReadable_replacing t hfew) hd, place?_replacing] at hposition
  obtain ⟨i, hi, hplace⟩ := Option.map_eq_some_iff.1 hposition
  obtain rfl : i = empties := by omega
  exact hi

/-- A text is harmless if both diffs that replace it, with and without an empty line, have
their places: a line of the old version would put off the new line in the first diff, any
other would be taken for it in the second. -/
theorem isHarmless_of_hasPlaces {t : List Char} (hzero : HasPlaces ['x', '\n'] (replacing t 0))
    (hone : HasPlaces ['x', '\n'] (replacing t 1)) : IsHarmless t := by
  have hzero := firstNew?_of_hasPlaces (by decide) hzero
  have hone := firstNew?_of_hasPlaces (by decide) hone
  rw [← laterBody_eq_nil_iff]
  cases hbody : laterBody t with
  | nil => rfl
  | cons e es =>
    rw [hbody, firstNew?, List.cons_append, List.findIdx?_cons] at hzero hone
    cases hnew : e.1.isNew <;> simp [hnew] at hzero hone

end Written

/-- The texts of a kind are harmless exactly if all diffs with such texts have the places of
reported lines whenever, and only if, the numbers in their headers can be read. -/
theorem hasPlaces_iff_isHarmless {P : List Char → Prop} (hempty : P []) (hx : P ['x']) :
    (∀ (old new : List Char) (w : Written), '\r' ∉ new → w.IsDiffOf old new → w.TextsIn P →
      (HasPlaces new w ↔ w.IsReadable)) ↔ ∀ t, P t → '\n' ∉ t → IsHarmless t := by
  constructor
  · intro hplaces t ht hnewline
    have hreplacing (empties : Nat) (hfew : empties + 1 < 10) :
        HasPlaces ['x', '\n'] (Written.replacing t empties) :=
      (hplaces _ _ _ (by decide) (Written.isDiffOf_replacing hnewline empties)
        (Written.textsIn_replacing hempty hx ht empties)).2 (Written.isReadable_replacing t hfew)
    exact Written.isHarmless_of_hasPlaces (hreplacing 0 (by decide)) (hreplacing 1 (by decide))
  · intro hharmless old new w _ hdiff htexts
    refine hasPlaces_iff_isReadable hdiff.hasPlainHead (fun h hh => (hdiff.shows h hh).toIsCounted)
      (fun h hh => ⟨?_, fun r hr => ?_⟩) new
    · exact hharmless _ (htexts h hh).1 (hdiff.shows h hh).caption
    · exact hharmless _ ((htexts h hh).2 r hr) ((hdiff.shows h hh).newline_not_mem hr)

theorem hasPlaces_of_textsIn_isPlain : Text.IsPlain [] ∧ Text.IsPlain ['x'] ∧
    ∀ (old new : List Char) (w : Written), '\r' ∉ new → w.IsDiffOf old new →
      w.TextsIn Text.IsPlain → (HasPlaces new w ↔ w.IsReadable) :=
  ⟨by decide, by decide, (hasPlaces_iff_isHarmless (by decide) (by decide)).2 fun _ ht _ =>
    isHarmless_of_isPlain ht⟩

/-- A new file of two lines, the first of which has a form feed before a minus sign. -/
def formFeed : Written where
  oldPath := none
  newPath := some "x.py".toList
  hunks :=
    [{ range := ⟨0, 0, 1, 2⟩, caption := []
       rows := [⟨.added, "a\x0c-b".toList, false⟩, ⟨.added, ['c'], false⟩] }]

theorem formFeed_misplaced :
    formFeed.IsDiffOf [] "a\x0c-b\nc\n".toList ∧ '\r' ∉ "a\x0c-b\nc\n".toList ∧
      formFeed.IsReadable ∧ IsReported "a\x0c-b\nc\n".toList 2 ∧ formFeed.place? 2 = some 2 ∧
      (read false (formFeed.text true)).map (·.positionOf? 2) = .ok (some 3) := by
  refine ⟨?_, by decide, ?_, ⟨.set ⟨.exact, true, []⟩, by decide⟩, rfl, rfl⟩
  · have hpath : ∀ path ∈ formFeed.newPath, Written.IsPath path := by
      rintro _ ⟨⟩
      decide
    have hhead : formFeed.HasHead :=
      { title := nofun, others := nofun, oldPath := nofun, newPath := hpath }
    refine ⟨hhead.hasPlainHead, ?_, List.pairwise_singleton _ _⟩
    intro h hh
    obtain rfl := List.mem_singleton.1 hh
    exact { oldCount := rfl, newCount := rfl, oldBrief := nofun, newBrief := nofun,
            oldTexts := List.nil_prefix, newTexts := by decide, oldStart := nofun,
            newStart := fun _ => Nat.one_pos, caption := List.not_mem_nil }
  · rintro h hh
    obtain rfl := List.mem_singleton.1 hh
    exact Range.isReadable_of_lt _ (by decide) (by decide) (by decide) (by decide)

end RuleReview.Diff
