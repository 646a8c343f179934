import Mathlib.Data.List.Nodup
import RuleReview.Proofs.Diff.Header

/-! Numbers and positions of a diff that is read, whatever the text. A hunk is placed after
the lines of the hunks before it, its lines are numbered on from its start on either side,
and it takes lines until it has as many as its header says. Proved: every text is read with
such numbers, and headers that count move a hunk by its index, unless a number in a header
has too many digits. The positions ascend, so no two lines of the new version have the same one.
Where the hunks have exactly the lines that their headers say, the lines with a position are those
in the ranges of the hunks, and where the ranges ascend, so do the positions. -/

namespace RuleReview.Diff

/-! ### Lines of a hunk -/

section number

variable (o n p : Nat) (body : List (Kind × List Char))

/-- A line by its place in the hunk: its numbers are counted on over the lines of its side. -/
theorem getElem?_number (k : Nat) :
    (number o n p body)[k]? = body[k]?.map fun e =>
      { kind := e.1, text := e.2
        oldLine := if e.1.isOld then some (o + (body.take k).countP (·.1.isOld)) else none
        newLine := if e.1.isNew then some (n + (body.take k).countP (·.1.isNew)) else none
        position := p + k + 1 } := by
  induction body generalizing o n p k with
  | nil => rfl
  | cons e body ih =>
    cases k with
    | zero => rfl
    | succ k =>
      have hcount (f : Kind → Bool) : ((e :: body).take (k + 1)).countP (f ·.1) =
          (f e.1).toNat + (body.take k).countP (f ·.1) := by
        rw [List.take_succ_cons, List.countP_cons]
        cases f e.1 <;> simp [Nat.add_comm]
      rw [number, List.getElem?_cons_succ, ih, List.getElem?_cons_succ, hcount, hcount]
      simp only [Nat.add_assoc, Nat.add_comm 1]

theorem take_number (k : Nat) : (number o n p body).take k = number o n p (body.take k) := by
  induction body generalizing o n p k with
  | nil => simp [number]
  | cons e body ih =>
    cases k with
    | zero => rfl
    | succ k => simp [number, ih]

@[simp] theorem countP_number (f : Kind → Bool) :
    (number o n p body).countP (f ·.kind) = body.countP (f ·.1) := by
  induction body generalizing o n p with
  | nil => rfl
  | cons e body ih => simp [number, List.countP_cons, ih]

theorem filterMap_oldLine_number :
    (number o n p body).filterMap (·.oldLine) = List.range' o (body.countP (·.1.isOld)) := by
  induction body generalizing o n p with
  | nil => rfl
  | cons e body ih =>
    rw [number, List.countP_cons]
    cases e.1.isOld <;> simp [ih, List.range'_succ]

theorem filterMap_newLine_number :
    (number o n p body).filterMap (·.newLine) = List.range' n (body.countP (·.1.isNew)) := by
  induction body generalizing o n p with
  | nil => rfl
  | cons e body ih =>
    rw [number, List.countP_cons]
    cases e.1.isNew <;> simp [ih, List.range'_succ]

theorem isSome_of_mem_number {l : Line} (h : l ∈ number o n p body) :
    l.oldLine.isSome = l.kind.isOld ∧ l.newLine.isSome = l.kind.isNew := by
  obtain ⟨k, hk⟩ := List.mem_iff_getElem?.1 h
  rw [getElem?_number, Option.map_eq_some_iff] at hk
  obtain ⟨e, -, rfl⟩ := hk
  cases e.1 <;> simp [Kind.isOld, Kind.isNew]

theorem number_shift (i : Nat) :
    number o n (p + i) body =
      (number o n p body).map fun l => { l with position := l.position + i } := by
  induction body generalizing o n p with
  | nil => rfl
  | cons e body ih => simp [number, ← ih, Nat.add_right_comm]

end number

/-! ### Stretches between headers -/

/-- A header with the lines up to the next one. -/
structure Stretch where
  range : Range
  header : List Char
  body : List (Kind × List Char)

def stretches : List Piece → List Stretch
  | [] => []
  | .opening range header :: rest => ⟨range, header, bodyOf rest⟩ :: stretches rest
  | _ :: rest => stretches rest

def Stretch.hunk (s : Stretch) (position : Nat) : Hunk where
  header := s.header
  range := s.range
  lines := number s.range.oldStart s.range.newStart position s.body

/-- The number of lines in the stretches before one. -/
def Stretch.linesBefore (ss : List Stretch) (i : Nat) : Nat :=
  ((ss.take i).map (·.body.length)).sum

/-- The hunk with an index comes after the lines of those before it and, where headers
count, after as many headers. -/
theorem getElem?_hunksOf (countHeaders : Bool) (ps : List Piece) (i : Nat) :
    (hunksOf countHeaders true 0 ps)[i]? =
      (stretches ps)[i]?.map fun s =>
        s.hunk (Stretch.linesBefore (stretches ps) i + if countHeaders then i else 0) := by
  suffices h : ∀ first p i, (hunksOf countHeaders first p ps)[i]? =
      (stretches ps)[i]?.map fun s : Stretch => s.hunk (p + Stretch.linesBefore (stretches ps) i +
        if countHeaders then (if first then i else i + 1) else 0) by
    simpa using h true 0 i
  intro first p i
  induction ps generalizing first p i with
  | nil => rfl
  | cons piece ps ih =>
    cases piece with
    | body kind text => exact ih first p i
    | outside cs => exact ih first p i
    | opening range header =>
      cases i with
      | zero =>
        cases countHeaders <;> cases first <;>
          simp [hunksOf, stretches, Stretch.hunk, Stretch.linesBefore]
      | succ i =>
        rw [hunksOf, List.getElem?_cons_succ, ih, stretches, List.getElem?_cons_succ]
        have hbefore : Stretch.linesBefore (⟨range, header, bodyOf ps⟩ :: stretches ps) (i + 1) =
            (bodyOf ps).length + Stretch.linesBefore (stretches ps) i := by
          simp [Stretch.linesBefore]
        congr 1
        funext s
        congr 1
        rw [hbefore]
        cases countHeaders <;> cases first <;> simp <;> omega

theorem hunksOf_eq_mapIdx (countHeaders : Bool) (ps : List Piece) :
    hunksOf countHeaders true 0 ps = (stretches ps).mapIdx fun i s =>
      s.hunk (Stretch.linesBefore (stretches ps) i + if countHeaders then i else 0) := by
  refine List.ext_getElem? fun i => ?_
  rw [getElem?_hunksOf, List.getElem?_mapIdx]

/-- A stretch that has as many lines of either version as its header says, or more. -/
def Stretch.IsFilled (s : Stretch) : Prop :=
  s.range.oldCount ≤ s.body.countP (·.1.isOld) ∧ s.range.newCount ≤ s.body.countP (·.1.isNew)

/-- Lines that are taken only while some are missing on either side. -/
def TakenWhileOpen (o n : Nat) (body : List (Kind × List Char)) : Prop :=
  ∀ k < body.length, (body.take k).countP (·.1.isOld) < o ∨ (body.take k).countP (·.1.isNew) < n

theorem TakenWhileOpen.cons {o n : Nat} {kind : Kind} {text : List Char}
    {body : List (Kind × List Char)} (hopen : 0 < o ∨ 0 < n)
    (h : TakenWhileOpen (o - kind.isOld.toNat) (n - kind.isNew.toNat) body) :
    TakenWhileOpen o n ((kind, text) :: body) := by
  intro k hk
  cases k with
  | zero => simpa using hopen
  | succ k =>
    have hk := h k (by simpa using hk)
    rw [List.take_succ_cons, List.countP_cons, List.countP_cons]
    cases kind <;> simp [Kind.isOld, Kind.isNew] at hk ⊢ <;> omega

/-- A hunk takes lines while some are missing. -/
theorem Reads.takenWhileOpen {o n : Nat} {ls : List (List Char)} {ps : List Piece}
    (h : Reads o n ls ps) : TakenWhileOpen o n (bodyOf ps) := by
  induction h with
  | done => exact fun k hk => absurd hk (Nat.not_lt_zero k)
  | remark _ _ _ ih => exact ih
  | body hopen _ _ ih => exact ih.cons hopen
  | opening => exact fun k hk => absurd hk (Nat.not_lt_zero k)
  | outside _ _ ih => exact ih

/-- A header is not read before the hunk that is open has its lines. -/
theorem Reads.le_countP {o n : Nat} {ls : List (List Char)} {ps : List Piece}
    (h : Reads o n ls ps) (hnext : stretches ps ≠ []) :
    o ≤ (bodyOf ps).countP (·.1.isOld) ∧ n ≤ (bodyOf ps).countP (·.1.isNew) := by
  induction h with
  | done => exact absurd rfl hnext
  | remark _ _ _ ih => exact ih hnext
  | @body _ _ _ _ _ kind text _ _ _ ih =>
    have ih := ih hnext
    rw [bodyOf, List.countP_cons, List.countP_cons]
    cases kind <;> simp [Kind.isOld, Kind.isNew] at ih ⊢ <;> omega
  | opening => exact ⟨Nat.zero_le _, Nat.zero_le _⟩
  | outside => exact ⟨Nat.zero_le _, Nat.zero_le _⟩

theorem Reads.stretch {o n : Nat} {ls : List (List Char)} {ps : List Piece} (h : Reads o n ls ps)
    {i : Nat} {s : Stretch} (hs : (stretches ps)[i]? = some s) :
    TakenWhileOpen s.range.oldCount s.range.newCount s.body ∧
      (i + 1 < (stretches ps).length → s.IsFilled) := by
  induction h generalizing i with
  | done => simp [stretches] at hs
  | remark _ _ _ ih => exact ih hs
  | body _ _ _ ih => exact ih hs
  | outside _ _ ih => exact ih hs
  | opening _ h ih =>
    cases i with
    | zero =>
      cases hs
      refine ⟨h.takenWhileOpen, fun hnext => h.le_countP ?_⟩
      rintro hnil
      simp [stretches, hnil] at hnext
    | succ i =>
      rw [stretches, List.getElem?_cons_succ] at hs
      refine ⟨(ih hs).1, fun hnext => (ih hs).2 ?_⟩
      simpa [stretches] using hnext

/-! ### Diffs -/

def linesBefore (d : Diff) (i : Nat) : Nat := ((d.hunks.take i).flatMap (·.lines)).length

/-- The diff with every hunk moved on by its index. -/
def shiftByIndex (d : Diff) : Diff :=
  { d with hunks := d.hunks.mapIdx fun i h =>
      { h with lines := h.lines.map fun l => { l with position := l.position + i } } }

/-- What a diff that was read satisfies: a line has its index over all hunks as its position,
counted from one and moved on by the index of its hunk where headers count; the lines of
a side are numbered from its start on without a gap, and no others have a number there; a
hunk is followed by another one only if it has all its lines, and takes none after that. -/
structure IsNumbered (countHeaders : Bool) (d : Diff) : Prop where
  position : ∀ (i : Nat) (h : Hunk), d.hunks[i]? = some h →
    ∀ (k : Nat) (l : Line), h.lines[k]? = some l →
      d.lines[d.linesBefore i + k]? = some l ∧
        l.position = d.linesBefore i + k + 1 + if countHeaders then i else 0
  oldLine : ∀ h ∈ d.hunks, h.lines.filterMap (·.oldLine) =
    List.range' h.range.oldStart (h.lines.countP (·.kind.isOld))
  newLine : ∀ h ∈ d.hunks, h.lines.filterMap (·.newLine) =
    List.range' h.range.newStart (h.lines.countP (·.kind.isNew))
  isSome : ∀ l ∈ d.lines, l.oldLine.isSome = l.kind.isOld ∧ l.newLine.isSome = l.kind.isNew
  filled : ∀ (i : Nat) (h : Hunk), d.hunks[i]? = some h → i + 1 < d.hunks.length →
    h.range.oldCount ≤ h.lines.countP (·.kind.isOld) ∧
      h.range.newCount ≤ h.lines.countP (·.kind.isNew)
  takenWhileOpen : ∀ h ∈ d.hunks, ∀ k < h.lines.length,
    (h.lines.take k).countP (·.kind.isOld) < h.range.oldCount ∨
      (h.lines.take k).countP (·.kind.isNew) < h.range.newCount

theorem getElem?_lines (d : Diff) {i : Nat} {h : Hunk} (hi : d.hunks[i]? = some h) {k : Nat}
    (hk : k < h.lines.length) : d.lines[d.linesBefore i + k]? = h.lines[k]? := by
  obtain ⟨hlt, rfl⟩ := List.getElem?_eq_some_iff.1 hi
  have hsplit : d.hunks = d.hunks.take i ++ d.hunks[i] :: d.hunks.drop (i + 1) := by simp
  rw [lines, linesBefore]
  conv_lhs => rw [hsplit, List.flatMap_append, List.flatMap_cons]
  rw [List.getElem?_append_right (by simp), List.getElem?_append_left (by simpa using hk)]
  simp

theorem linesBefore_ofPieces (countHeaders : Bool) (ps : List Piece) (i : Nat) :
    (ofPieces countHeaders ps).linesBefore i = Stretch.linesBefore (stretches ps) i := by
  have hlengths : (hunksOf countHeaders true 0 ps).map (·.lines.length) =
      (stretches ps).map (·.body.length) := by
    refine List.ext_getElem? fun i => ?_
    simp [getElem?_hunksOf, Stretch.hunk, Function.comp_def]
  rw [linesBefore, List.length_flatMap, List.map_take, ofPieces, hlengths, ← List.map_take]
  rfl

/-- Every hunk is the one of a stretch. -/
theorem exists_stretch {countHeaders : Bool} {ps : List Piece} {i : Nat} {g : Hunk}
    (hg : (ofPieces countHeaders ps).hunks[i]? = some g) :
    ∃ s, (stretches ps)[i]? = some s ∧
      s.hunk ((ofPieces countHeaders ps).linesBefore i + if countHeaders then i else 0) = g := by
  rw [ofPieces, getElem?_hunksOf, Option.map_eq_some_iff] at hg
  rwa [linesBefore_ofPieces]

theorem Reads.exists_stretch_of_mem {ls : List (List Char)} {ps : List Piece}
    (h : Reads 0 0 ls ps) {countHeaders : Bool} {g : Hunk}
    (hg : g ∈ (ofPieces countHeaders ps).hunks) :
    ∃ (s : Stretch) (p : Nat), s.hunk p = g ∧
      TakenWhileOpen s.range.oldCount s.range.newCount s.body := by
  obtain ⟨i, hi⟩ := List.mem_iff_getElem?.1 hg
  obtain ⟨s, hs, hg⟩ := exists_stretch hi
  exact ⟨s, _, hg, (h.stretch hs).1⟩

theorem Reads.isNumbered {ls : List (List Char)} {ps : List Piece} (h : Reads 0 0 ls ps)
    (countHeaders : Bool) : IsNumbered countHeaders (ofPieces countHeaders ps) := by
  refine ⟨?_, ?_, ?_, ?_, ?_, ?_⟩
  · intro i g hg k l hl
    obtain ⟨hk, -⟩ := List.getElem?_eq_some_iff.1 hl
    refine ⟨(getElem?_lines _ hg hk).trans hl, ?_⟩
    obtain ⟨s, -, rfl⟩ := exists_stretch hg
    rw [Stretch.hunk, getElem?_number, Option.map_eq_some_iff] at hl
    obtain ⟨e, -, rfl⟩ := hl
    simp only
    omega
  · intro g hg
    obtain ⟨s, p, rfl, -⟩ := h.exists_stretch_of_mem hg
    simp [Stretch.hunk, filterMap_oldLine_number]
  · intro g hg
    obtain ⟨s, p, rfl, -⟩ := h.exists_stretch_of_mem hg
    simp [Stretch.hunk, filterMap_newLine_number]
  · intro l hl
    obtain ⟨g, hg, hl⟩ := List.mem_flatMap.1 hl
    obtain ⟨s, p, rfl, -⟩ := h.exists_stretch_of_mem hg
    exact isSome_of_mem_number _ _ _ _ hl
  · intro i g hg hnext
    obtain ⟨s, hs, rfl⟩ := exists_stretch hg
    have hlength : (ofPieces countHeaders ps).hunks.length = (stretches ps).length := by
      simp [ofPieces, hunksOf_eq_mapIdx]
    simpa [Stretch.hunk, Stretch.IsFilled] using (h.stretch hs).2 (hlength ▸ hnext)
  · intro g hg k hk
    obtain ⟨s, p, rfl, hopen⟩ := h.exists_stretch_of_mem hg
    simpa [Stretch.hunk, take_number] using hopen k (by simpa [Stretch.hunk] using hk)

theorem ofPieces_true (ps : List Piece) :
    ofPieces true ps = (ofPieces false ps).shiftByIndex := by
  have hhunks : hunksOf true true 0 ps = (ofPieces false ps).shiftByIndex.hunks := by
    refine List.ext_getElem? fun i => ?_
    rw [shiftByIndex, List.getElem?_mapIdx, ofPieces, getElem?_hunksOf, getElem?_hunksOf,
      Option.map_map]
    congr 1
    funext s
    simp [Stretch.hunk, number_shift]
  rw [ofPieces, hhunks]
  rfl

/-- Every text is read, with numbers and positions as they should be and the same hunks
whether headers count or not, unless a number in a header has too many digits. -/
theorem read_isNumbered (text : String) :
    (∃ d, read false text = .ok d ∧ read true text = .ok d.shiftByIndex ∧
      IsNumbered false d ∧ IsNumbered true d.shiftByIndex) ∨
    ∃ (old new : Side) (caption : List Char),
      headerText old new caption ∈ Text.breakLines text.toList ∧
      (∀ ds ∈ Side.numbers old ++ Side.numbers new, IsNumber ds) ∧
      ∃ ds ∈ Side.numbers old ++ Side.numbers new, Decimal.maxDigits < ds.length ∧
        ∀ countHeaders, read countHeaders text = .error (.tooManyDigits ds.length) := by
  cases h : pieces 0 0 (Text.breakLines text.toList) with
  | ok ps =>
    refine .inl ⟨ofPieces false ps, ?_, ?_, ?_, ?_⟩
    · rw [read, h]; rfl
    · rw [read, h, ← ofPieces_true]; rfl
    · exact (reads_of_pieces h).isNumbered false
    · exact ofPieces_true ps ▸ (reads_of_pieces h).isNumbered true
  | error f =>
    obtain ⟨_, hmem, hrange⟩ := exists_refused_of_pieces h
    obtain ⟨old, new, caption, rfl, hnumbers, ds, hds, hlong, rfl⟩ :=
      exists_long_of_readRange? hrange
    refine .inr ⟨old, new, caption, hmem, hnumbers, ds, hds, hlong, fun countHeaders => ?_⟩
    rw [read, h]
    rfl

/-! ### Positions that ascend -/

theorem position_of_mem_number {o n p : Nat} {body : List (Kind × List Char)} {l : Line}
    (h : l ∈ number o n p body) : p < l.position ∧ l.position ≤ p + body.length := by
  induction body generalizing o n p with
  | nil => cases h
  | cons e body ih =>
    rw [number, List.mem_cons] at h
    rw [List.length_cons]
    rcases h with rfl | h
    · constructor <;> dsimp only <;> omega
    · have ih := ih h
      omega

theorem pairwise_position_number (o n p : Nat) (body : List (Kind × List Char)) :
    (number o n p body).Pairwise (·.position < ·.position) := by
  induction body generalizing o n p with
  | nil => exact .nil
  | cons e body ih => exact .cons (fun l hl => (position_of_mem_number hl).1) (ih _ _ _)

theorem pairwise_position_hunksOf (countHeaders first : Bool) (p : Nat) (ps : List Piece) :
    ((hunksOf countHeaders first p ps).flatMap (·.lines)).Pairwise (·.position < ·.position) ∧
      ∀ l ∈ (hunksOf countHeaders first p ps).flatMap (·.lines), p < l.position := by
  induction ps generalizing first p with
  | nil => exact ⟨.nil, nofun⟩
  | cons piece ps ih =>
    cases piece with
    | body kind text => exact ih first p
    | outside cs => exact ih first p
    | opening range header =>
      rw [hunksOf]
      generalize hstart : (if countHeaders && !first then p + 1 else p) = start
      have hle : p ≤ start := by
        rw [← hstart]
        split <;> omega
      have ih := ih false (start + (bodyOf ps).length)
      rw [List.flatMap_cons]
      constructor
      · refine List.pairwise_append.2 ⟨pairwise_position_number _ _ _ _, ih.1, ?_⟩
        intro l hl l' hl'
        have hbefore := (position_of_mem_number hl).2
        have hafter := ih.2 l' hl'
        omega
      · intro l hl
        rcases List.mem_append.1 hl with hl | hl
        · have hbefore := (position_of_mem_number hl).1
          omega
        · have hafter := ih.2 l hl
          omega

theorem pairwise_position_read {countHeaders : Bool} {text : String} {d : Diff}
    (h : read countHeaders text = .ok d) : d.lines.Pairwise (·.position < ·.position) := by
  obtain ⟨ps, -, rfl⟩ := Stop.map_eq_ok.1 h
  exact (pairwise_position_hunksOf countHeaders true 0 ps).1

/-- A position is that of a line of the new version. -/
theorem exists_mem_lines_of_positionOf? {d : Diff} {n p : Nat} (h : d.positionOf? n = some p) :
    ∃ l ∈ d.lines, l.newLine = some n ∧ l.position = p := by
  obtain ⟨l, hl, rfl⟩ := Option.map_eq_some_iff.1 h
  exact ⟨l, List.mem_of_find?_eq_some hl, by simpa using List.find?_some hl, rfl⟩

/-- A position belongs to one line of the new version. -/
theorem positionOf?_inj {countHeaders : Bool} {text : String} {d : Diff}
    (h : read countHeaders text = .ok d) {m n p : Nat} (hm : d.positionOf? m = some p)
    (hn : d.positionOf? n = some p) : m = n := by
  obtain ⟨l, hl, hline, rfl⟩ := exists_mem_lines_of_positionOf? hm
  obtain ⟨l', hl', hline', hsame⟩ := exists_mem_lines_of_positionOf? hn
  have hnodup : (d.lines.map (·.position)).Nodup :=
    List.pairwise_map.2 ((pairwise_position_read h).imp Nat.ne_of_lt)
  obtain rfl := List.inj_on_of_nodup_map hnodup hl hl' hsame.symm
  exact Option.some.inj (hline.symm.trans hline')

/-! ### Hunks that are exact -/

/-- Whether a hunk with this range has a line of the new version. -/
def Range.HasNew (r : Range) (n : Nat) : Prop := r.newStart ≤ n ∧ n < r.newStart + r.newCount

instance (r : Range) (n : Nat) : Decidable (r.HasNew n) := inferInstanceAs (Decidable (_ ∧ _))

/-- Every hunk has as many lines of either version as its header says. -/
def IsExact (d : Diff) : Prop :=
  ∀ h ∈ d.hunks, h.lines.countP (·.kind.isOld) = h.range.oldCount ∧
    h.lines.countP (·.kind.isNew) = h.range.newCount

instance (d : Diff) : Decidable d.IsExact :=
  inferInstanceAs (Decidable (∀ h ∈ d.hunks, _ ∧ _))

/-- The lines of the new version in a hunk come before those in later hunks. -/
def IsAscending (d : Diff) : Prop :=
  (d.hunks.map (·.range)).Pairwise fun r s => ∀ m n, r.HasNew m → s.HasNew n → m < n

theorem isNumbered_of_read {countHeaders : Bool} {text : String} {d : Diff}
    (h : read countHeaders text = .ok d) : IsNumbered countHeaders d := by
  obtain ⟨ps, hps, rfl⟩ := Stop.map_eq_ok.1 h
  exact (reads_of_pieces hps).isNumbered countHeaders

theorem mem_range'_iff_hasNew {r : Range} {n : Nat} :
    n ∈ List.range' r.newStart r.newCount ↔ r.HasNew n := by
  rw [List.mem_range'_1, Range.HasNew]

theorem exists_positionOf?_iff {d : Diff} {n : Nat} :
    (∃ p, d.positionOf? n = some p) ↔ n ∈ d.lines.filterMap (·.newLine) := by
  rw [positionOf?, ← Option.isSome_iff_exists, Option.isSome_map, List.find?_isSome,
    List.mem_filterMap]
  simp only [beq_iff_eq]

section Exact

variable {countHeaders : Bool} {d : Diff} (hnumbered : IsNumbered countHeaders d)
  (hexact : d.IsExact)
include hnumbered hexact

/-- The numbers on the new side are those in the ranges of the hunks, one hunk after the other. -/
theorem filterMap_newLine_lines : d.lines.filterMap (·.newLine) =
    d.hunks.flatMap fun h => List.range' h.range.newStart h.range.newCount := by
  rw [lines, List.filterMap_flatMap]
  refine List.flatMap_congr fun h hh => ?_
  rw [hnumbered.newLine h hh, (hexact h hh).2]

theorem exists_positionOf?_iff_hasNew {n : Nat} :
    (∃ p, d.positionOf? n = some p) ↔ ∃ h ∈ d.hunks, h.range.HasNew n := by
  rw [exists_positionOf?_iff, filterMap_newLine_lines hnumbered hexact, List.mem_flatMap]
  simp only [mem_range'_iff_hasNew]

theorem pairwise_newLine_lines (hascending : d.IsAscending) :
    (d.lines.filterMap (·.newLine)).Pairwise (· < ·) := by
  rw [filterMap_newLine_lines hnumbered hexact, List.pairwise_flatMap]
  refine ⟨fun h _ => List.pairwise_lt_range', ?_⟩
  refine (List.pairwise_map.1 hascending).imp fun hbefore m hm n hn => ?_
  exact hbefore m n (mem_range'_iff_hasNew.1 hm) (mem_range'_iff_hasNew.1 hn)

end Exact

/-- Of lines whose positions and numbers on the new side ascend, one with a smaller number has a
smaller position. -/
theorem position_lt_of_newLine_lt {ls : List Line}
    (hpositions : ls.Pairwise (·.position < ·.position))
    (hnumbers : (ls.filterMap (·.newLine)).Pairwise (· < ·)) {l l' : Line} (hl : l ∈ ls)
    (hl' : l' ∈ ls) {m n : Nat} (hm : l.newLine = some m) (hn : l'.newLine = some n)
    (hlt : m < n) : l.position < l'.position := by
  have hordered : ls.Pairwise fun a b => a.position < b.position ∧
      ∀ i, a.newLine = some i → ∀ j, b.newLine = some j → i < j :=
    hpositions.and (List.pairwise_filterMap.1 hnumbers)
  obtain ⟨i, hi, rfl⟩ := List.mem_iff_getElem.1 hl
  obtain ⟨j, hj, rfl⟩ := List.mem_iff_getElem.1 hl'
  rw [List.pairwise_iff_getElem] at hordered
  rcases Nat.lt_trichotomy i j with hij | rfl | hji
  · exact (hordered i j hi hj hij).1
  · have hsame : m = n := Option.some.inj (hm.symm.trans hn)
    omega
  · have hback : n < m := (hordered j i hj hi hji).2 n hn m hm
    omega

/-- In a diff whose hunks have exactly the lines that their headers say, the lines with a position
are those in the ranges of the hunks. The position is that of an added line or one of both
versions with this number, so no two lines have the same one, and it ascends with the line where
the ranges ascend. -/
theorem positionOf?_of_isExact {countHeaders : Bool} {text : String} {d : Diff}
    (hread : read countHeaders text = .ok d) (hexact : d.IsExact) :
    (∀ n, (∃ p, d.positionOf? n = some p) ↔ ∃ h ∈ d.hunks, h.range.HasNew n) ∧
    (∀ n p, d.positionOf? n = some p → ∃ l ∈ d.lines, l.newLine = some n ∧
      (l.kind = .added ∨ l.kind = .context) ∧ l.position = p) ∧
    (∀ m n p, d.positionOf? m = some p → d.positionOf? n = some p → m = n) ∧
    (d.IsAscending → ∀ m n p q, d.positionOf? m = some p → d.positionOf? n = some q →
      m < n → p < q) := by
  have hnumbered := isNumbered_of_read hread
  refine ⟨fun n => exists_positionOf?_iff_hasNew hnumbered hexact, ?_, ?_, ?_⟩
  · intro n p hp
    obtain ⟨l, hl, hline, hposition⟩ := exists_mem_lines_of_positionOf? hp
    refine ⟨l, hl, hline, ?_, hposition⟩
    have hnew : l.kind.isNew = true := by
      rw [← (hnumbered.isSome l hl).2, hline, Option.isSome_some]
    cases hkind : l.kind <;> simp [hkind, Kind.isNew] at hnew ⊢
  · exact fun m n p hm hn => positionOf?_inj hread hm hn
  · intro hascending m n p q hm hn hlt
    obtain ⟨l, hl, hlm, rfl⟩ := exists_mem_lines_of_positionOf? hm
    obtain ⟨l', hl', hln, rfl⟩ := exists_mem_lines_of_positionOf? hn
    exact position_lt_of_newLine_lt (pairwise_position_read hread)
      (pairwise_newLine_lines hnumbered hexact hascending) hl hl' hlm hln hlt

/-- Three hunks, the second of which has no lines of the new version. -/
def threeHunks : String :=
  "@@ -1,2 +1,3 @@\n a\n-b\n+c\n+d\n@@ -5 +5,0 @@\n-e\n@@ -8 +8,2 @@\n+f\n g\n"

/-- With headers that count, the lines of the first and the third hunk have positions that ascend,
and the line that the empty range starts with has none. -/
theorem positionOf?_threeHunks :
    ∃ d, read true threeHunks = .ok d ∧ d.IsExact ∧ d.IsAscending ∧
      (¬ ∃ p, d.positionOf? 5 = some p) ∧
      ∃ p q, d.positionOf? 3 = some p ∧ d.positionOf? 8 = some q ∧ p < q := by
  have hparts : (read true threeHunks).toOption.map
      (fun d => (d.hunks.map (·.range), decide d.IsExact)) =
        some ([⟨1, 2, 1, 3⟩, ⟨5, 1, 5, 0⟩, ⟨8, 1, 8, 2⟩], true) := by
    decide +kernel
  obtain ⟨d, hread, hd⟩ := Option.map_eq_some_iff.1 hparts
  obtain ⟨hranges, hexact⟩ := Prod.mk.inj hd
  have hread := Stop.eq_ok_of_toOption hread
  have hexact := of_decide_eq_true hexact
  have hascending : d.IsAscending := by
    rw [IsAscending, hranges]
    simp only [List.pairwise_cons, Range.HasNew, List.mem_cons, List.not_mem_nil]
    grind
  have hhas (n : Nat) : (∃ h ∈ d.hunks, h.range.HasNew n) ↔
      ∃ r ∈ d.hunks.map (·.range), r.HasNew n := by
    simp
  obtain ⟨hmapped, -, -, horder⟩ := positionOf?_of_isExact hread hexact
  simp only [hhas, hranges] at hmapped
  obtain ⟨p, hp⟩ := (hmapped 3).2 ⟨_, List.mem_cons_self, by decide⟩
  obtain ⟨q, hq⟩ := (hmapped 8).2 ⟨⟨8, 1, 8, 2⟩, by decide, by decide⟩
  refine ⟨d, hread, hexact, hascending, ?_, p, q, hp, hq,
    horder hascending 3 8 p q hp hq (by decide)⟩
  rw [hmapped 5]
  decide

end RuleReview.Diff
