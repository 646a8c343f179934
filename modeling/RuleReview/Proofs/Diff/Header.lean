import RuleReview.Diff.Read
import RuleReview.Proofs.Decimal.Integer
import RuleReview.Proofs.Stop
import RuleReview.Proofs.Text

/-! The headers of hunks, and the pieces of a diff. A header is recognized exactly where a line is
one by its form, and the numbers written in it are read back unless one of them has too many digits.
A line of an open hunk is a remark or belongs to the hunk; outside the hunks it is the header of
the next one or anything else. -/

namespace RuleReview.Diff

/-! ### Form -/

/-- The digits of a start and, where it is written, of a count. -/
abbrev Side := List Char × Option (List Char)

def Side.text : Side → List Char
  | (start, none) => start
  | (start, some count) => start ++ ',' :: count

def Side.numbers : Side → List (List Char)
  | (start, none) => [start]
  | (start, some count) => [start, count]

/-- Digits of any script, at least one. -/
def IsNumber (ds : List Char) : Prop := ds ≠ [] ∧ ∀ c ∈ ds, Text.isDecimal c = true

instance (ds : List Char) : Decidable (IsNumber ds) := inferInstanceAs (Decidable (_ ∧ _))

/-- A header with its two sides and whatever follows the second marks. -/
def headerText (old new : Side) (caption : List Char) : List Char :=
  "@@ -".toList ++ (old.text ++ (" +".toList ++ (new.text ++ (" @@".toList ++ caption))))

/-- Whether a line has the form of a header. -/
def IsHeader (cs : List Char) : Prop :=
  ∃ old new caption, (∀ ds ∈ Side.numbers old ++ Side.numbers new, IsNumber ds) ∧
    cs = headerText old new caption

theorem takeRun?_isDecimal {ds rest : List Char} (hds : IsNumber ds)
    (hrest : ∀ c ∈ rest.head?, Text.isDecimal c = false) :
    Text.takeRun? Text.isDecimal (ds ++ rest) = some (ds, rest) :=
  Text.takeRun?_append hds.1 hds.2 hrest

theorem takeSide?_text {s : Side} (hs : ∀ ds ∈ s.numbers, IsNumber ds) (rest : List Char) :
    takeSide? (s.text ++ ' ' :: rest) = some (s, ' ' :: rest) := by
  have hblank : ∀ c ∈ (' ' :: rest).head?, Text.isDecimal c = false := by
    rintro _ ⟨⟩
    decide
  obtain ⟨start, _ | count⟩ := s
  · simp only [Side.numbers, List.forall_mem_singleton] at hs
    simp [takeSide?, Side.text, takeRun?_isDecimal hs hblank]
  · simp only [Side.numbers, List.forall_mem_cons] at hs
    have hcomma : ∀ c ∈ (',' :: (count ++ ' ' :: rest)).head?, Text.isDecimal c = false := by
      rintro _ ⟨⟩
      decide
    simp [takeSide?, Side.text, takeRun?_isDecimal hs.1 hcomma,
      takeRun?_isDecimal hs.2.1 hblank]

theorem eq_of_takeSide? {cs rest : List Char} {s : Side} (h : takeSide? cs = some (s, rest)) :
    (∀ ds ∈ s.numbers, IsNumber ds) ∧ cs = s.text ++ rest := by
  obtain ⟨⟨start, after⟩, hstart, hafter⟩ := Option.bind_eq_some_iff.1 h
  obtain ⟨hne, hdigits, -, rfl⟩ := Text.takeRun?_eq_some_iff.1 hstart
  dsimp only at hafter
  split at hafter
  next more =>
    obtain ⟨⟨count, after⟩, hcount, hside⟩ := Option.bind_eq_some_iff.1 hafter
    obtain ⟨hne', hdigits', -, rfl⟩ := Text.takeRun?_eq_some_iff.1 hcount
    cases hside
    have hnumbers : IsNumber start ∧ IsNumber count := ⟨⟨hne, hdigits⟩, hne', hdigits'⟩
    simp [Side.numbers, Side.text, hnumbers]
  next =>
    cases hafter
    have hnumber : IsNumber start := ⟨hne, hdigits⟩
    simp [Side.numbers, Side.text, hnumber]

/-- The digits of a header are those of its sides, and only headers have any. -/
theorem headerDigits?_eq_some_iff {cs : List Char} {old new : Side} :
    headerDigits? cs = some (old, new) ↔
      (∀ ds ∈ old.numbers ++ new.numbers, IsNumber ds) ∧
        ∃ caption, cs = headerText old new caption := by
  rw [List.forall_mem_append]
  constructor
  · intro h
    obtain ⟨afterMarks, hmarks, h⟩ := Option.bind_eq_some_iff.1 h
    obtain ⟨⟨old', afterOld⟩, hold, h⟩ := Option.bind_eq_some_iff.1 h
    obtain ⟨afterPlus, hplus, h⟩ := Option.bind_eq_some_iff.1 h
    obtain ⟨⟨new', afterNew⟩, hnew, h⟩ := Option.bind_eq_some_iff.1 h
    obtain ⟨caption, hcaption, h⟩ := Option.bind_eq_some_iff.1 h
    cases h
    obtain ⟨hold, rfl⟩ := eq_of_takeSide? hold
    obtain ⟨hnew, rfl⟩ := eq_of_takeSide? hnew
    obtain rfl := Text.takeFront?_eq_some_iff.1 hmarks
    obtain rfl := Text.takeFront?_eq_some_iff.1 hplus
    obtain rfl := Text.takeFront?_eq_some_iff.1 hcaption
    exact ⟨⟨‹_›, ‹_›⟩, caption, rfl⟩
  · rintro ⟨⟨hold, hnew⟩, caption, rfl⟩
    have hold' (rest : List Char) :
        takeSide? (old.text ++ (" +".toList ++ rest)) = some (old, " +".toList ++ rest) :=
      takeSide?_text hold _
    have hnew' (rest : List Char) :
        takeSide? (new.text ++ (" @@".toList ++ rest)) = some (new, " @@".toList ++ rest) :=
      takeSide?_text hnew _
    simp only [headerDigits?, headerText, Text.takeFront?_append, hold', hnew',
      Option.bind_eq_bind, Option.bind_some, Option.pure_def]

theorem headerDigits?_eq_none_iff {cs : List Char} : headerDigits? cs = none ↔ ¬ IsHeader cs := by
  rw [← Option.not_isSome_iff_eq_none, not_iff_not, Option.isSome_iff_exists]
  constructor
  · rintro ⟨⟨old, new⟩, h⟩
    obtain ⟨hnumbers, caption, rfl⟩ := headerDigits?_eq_some_iff.1 h
    exact ⟨old, new, caption, hnumbers, rfl⟩
  · rintro ⟨old, new, caption, hnumbers, rfl⟩
    exact ⟨(old, new), headerDigits?_eq_some_iff.2 ⟨hnumbers, caption, rfl⟩⟩

instance (cs : List Char) : Decidable (IsHeader cs) :=
  decidable_of_iff (¬ headerDigits? cs = none) (by rw [headerDigits?_eq_none_iff, not_not])

/-! ### Numbers -/

theorem readNumber_eq_error_iff {ds : List Char} {f : Fault} :
    readNumber ds = .error f ↔ Decimal.maxDigits < ds.length ∧ f = .tooManyDigits ds.length := by
  rw [readNumber]
  cases hds : Decimal.readDigits ds with
  | ok n =>
    have hshort : ¬ Decimal.maxDigits < ds.length := fun h => by
      simpa [hds] using Decimal.readDigits_eq_error_iff.2 ⟨h, rfl⟩
    simp [Except.mapError, hshort]
  | error e =>
    obtain ⟨hlong, rfl⟩ := Decimal.readDigits_eq_error_iff.1 hds
    simp [Except.mapError, Fault.ofInteger, hlong, eq_comm]

open Stop in
theorem readRange?_eq_none_iff {cs : List Char} : readRange? cs = .ok none ↔ ¬ IsHeader cs := by
  rw [← headerDigits?_eq_none_iff, readRange?]
  split
  next h => simp [h]
  next old new h =>
    refine iff_of_false (fun hread => ?_) (by simp [h])
    obtain ⟨_, _, hread⟩ := bind_eq_ok.1 hread
    obtain ⟨_, _, hread⟩ := bind_eq_ok.1 hread
    obtain ⟨_, _, hread⟩ := bind_eq_ok.1 hread
    obtain ⟨_, _, hread⟩ := bind_eq_ok.1 hread
    cases hread

/-- The digits that are read for a count; one is read where none are written. -/
theorem getD_mem_numbers (s : Side) : s.2.getD ['1'] ∈ ['1'] :: s.numbers := by
  obtain ⟨start, _ | count⟩ := s <;> simp [Side.numbers]

theorem start_mem_numbers (s : Side) : s.1 ∈ s.numbers := by
  obtain ⟨start, _ | count⟩ := s <;> simp [Side.numbers]

open Stop in
/-- A header is refused because one of its numbers is. -/
theorem exists_readNumber_eq_error {cs : List Char} {old new : Side}
    (hdigits : headerDigits? cs = some (old, new)) {f : Fault} (h : readRange? cs = .error f) :
    ∃ ds ∈ ['1'] :: (Side.numbers old ++ Side.numbers new), readNumber ds = .error f := by
  have hold := start_mem_numbers old
  have hnew := start_mem_numbers new
  have hold' := getD_mem_numbers old
  have hnew' := getD_mem_numbers new
  rw [readRange?, hdigits] at h
  obtain h | ⟨_, _, h⟩ := bind_eq_error.1 h
  · exact ⟨_, by simp [hold], h⟩
  obtain h | ⟨_, _, h⟩ := bind_eq_error.1 h
  · exact ⟨_, by grind, h⟩
  obtain h | ⟨_, _, h⟩ := bind_eq_error.1 h
  · exact ⟨_, by simp [hnew], h⟩
  obtain h | ⟨_, _, h⟩ := bind_eq_error.1 h
  · exact ⟨_, by grind, h⟩
  cases h

/-- A header is refused only for a number of too many digits. -/
theorem exists_long_of_readRange? {cs : List Char} {f : Fault} (h : readRange? cs = .error f) :
    ∃ (old new : Side) (caption : List Char), cs = headerText old new caption ∧
      (∀ ds ∈ Side.numbers old ++ Side.numbers new, IsNumber ds) ∧
      ∃ ds ∈ Side.numbers old ++ Side.numbers new, Decimal.maxDigits < ds.length ∧
        f = .tooManyDigits ds.length := by
  cases hdigits : headerDigits? cs with
  | none =>
    rw [readRange?, hdigits] at h
    cases h
  | some sides =>
    obtain ⟨old, new⟩ := sides
    obtain ⟨hnumbers, caption, rfl⟩ := headerDigits?_eq_some_iff.1 hdigits
    obtain ⟨ds, hds, hread⟩ := exists_readNumber_eq_error hdigits h
    obtain ⟨hlong, rfl⟩ := readNumber_eq_error_iff.1 hread
    refine ⟨old, new, caption, rfl, hnumbers, ?_⟩
    rcases List.mem_cons.1 hds with rfl | hds
    · -- the one that is read for a count left out is short
      simp [Decimal.maxDigits] at hlong
    · exact ⟨ds, hds, hlong, rfl⟩

theorem readNumber_digits {n : Nat} (h : n < 10 ^ Decimal.maxDigits) :
    readNumber (Decimal.digits n) = .ok n := by
  rw [readNumber, Decimal.readDigits_digits h]
  rfl

theorem lt_of_readNumber_digits {n m : Nat} (h : readNumber (Decimal.digits n) = .ok m) :
    n < 10 ^ Decimal.maxDigits := by
  by_contra hn
  rw [readNumber, Decimal.readDigits_digits_of_le (Nat.le_of_not_lt hn)] at h
  cases h

/-! ### Headers of ranges -/

/-- A side in decimal digits. A count of one may be left out. -/
def sideOf (start count : Nat) (brief : Bool) : Side :=
  (Decimal.digits start, if brief then none else some (Decimal.digits count))

/-- Whether every number of a range has few enough digits to be read. -/
def Range.IsReadable (r : Range) : Prop :=
  r.oldStart < 10 ^ Decimal.maxDigits ∧ r.oldCount < 10 ^ Decimal.maxDigits ∧
    r.newStart < 10 ^ Decimal.maxDigits ∧ r.newCount < 10 ^ Decimal.maxDigits

instance (r : Range) : Decidable r.IsReadable := inferInstanceAs (Decidable (_ ∧ _))

theorem Range.isReadable_of_lt (r : Range) (hos : r.oldStart < 10) (ho : r.oldCount < 10)
    (hns : r.newStart < 10) (hn : r.newCount < 10) : r.IsReadable :=
  ⟨Decimal.lt_pow_maxDigits hos, Decimal.lt_pow_maxDigits ho, Decimal.lt_pow_maxDigits hns,
    Decimal.lt_pow_maxDigits hn⟩

def rangeHeader (r : Range) (oldBrief newBrief : Bool) (caption : List Char) : List Char :=
  headerText (sideOf r.oldStart r.oldCount oldBrief) (sideOf r.newStart r.newCount newBrief) caption

theorem isNumber_digits (n : Nat) : IsNumber (Decimal.digits n) :=
  ⟨Decimal.digits_ne_nil n, fun _ => Decimal.isDecimal_of_mem_digits⟩

theorem isNumber_of_mem_sideOf {start count : Nat} {brief : Bool} {ds : List Char}
    (h : ds ∈ (sideOf start count brief).numbers) : IsNumber ds := by
  cases brief <;> simp only [sideOf, Side.numbers, List.mem_cons, List.not_mem_nil, or_false,
    Bool.false_eq_true, if_false, if_true] at h
  · rcases h with rfl | rfl <;> exact isNumber_digits _
  · exact h ▸ isNumber_digits _

theorem getD_sideOf {start count : Nat} {brief : Bool} (h : brief = true → count = 1) :
    (sideOf start count brief).2.getD ['1'] = Decimal.digits count := by
  cases brief with
  | false => rfl
  | true => rw [h rfl]; rfl

theorem readRange?_rangeHeader {r : Range} {oldBrief newBrief : Bool}
    (hold : oldBrief = true → r.oldCount = 1) (hnew : newBrief = true → r.newCount = 1)
    (caption : List Char) :
    readRange? (rangeHeader r oldBrief newBrief caption) = do
      let oldStart ← readNumber (Decimal.digits r.oldStart)
      let oldCount ← readNumber (Decimal.digits r.oldCount)
      let newStart ← readNumber (Decimal.digits r.newStart)
      let newCount ← readNumber (Decimal.digits r.newCount)
      return some ⟨oldStart, oldCount, newStart, newCount⟩ := by
  have hdigits : headerDigits? (rangeHeader r oldBrief newBrief caption) =
      some (sideOf r.oldStart r.oldCount oldBrief, sideOf r.newStart r.newCount newBrief) :=
    headerDigits?_eq_some_iff.2 ⟨fun ds hds => (List.mem_append.1 hds).elim
      isNumber_of_mem_sideOf isNumber_of_mem_sideOf, caption, rfl⟩
  rw [readRange?, hdigits]
  simp only [getD_sideOf hold, getD_sideOf hnew]
  rfl

theorem readRange?_of_isReadable {r : Range} (h : r.IsReadable) {oldBrief newBrief : Bool}
    (hold : oldBrief = true → r.oldCount = 1) (hnew : newBrief = true → r.newCount = 1)
    (caption : List Char) :
    readRange? (rangeHeader r oldBrief newBrief caption) = .ok (some r) := by
  obtain ⟨h1, h2, h3, h4⟩ := h
  rw [readRange?_rangeHeader hold hnew, readNumber_digits h1, readNumber_digits h2,
    readNumber_digits h3, readNumber_digits h4]
  rfl

open Stop in
/-- The header of a range is refused if one of its numbers is too long. -/
theorem exists_readRange?_eq_error {r : Range} (h : ¬ r.IsReadable) {oldBrief newBrief : Bool}
    (hold : oldBrief = true → r.oldCount = 1) (hnew : newBrief = true → r.newCount = 1)
    (caption : List Char) :
    ∃ f, readRange? (rangeHeader r oldBrief newBrief caption) = .error f := by
  cases hread : readRange? (rangeHeader r oldBrief newBrief caption) with
  | error f => exact ⟨f, rfl⟩
  | ok range =>
    rw [readRange?_rangeHeader hold hnew] at hread
    obtain ⟨_, h1, hread⟩ := bind_eq_ok.1 hread
    obtain ⟨_, h2, hread⟩ := bind_eq_ok.1 hread
    obtain ⟨_, h3, hread⟩ := bind_eq_ok.1 hread
    obtain ⟨_, h4, -⟩ := bind_eq_ok.1 hread
    exact absurd ⟨lt_of_readNumber_digits h1, lt_of_readNumber_digits h2,
      lt_of_readNumber_digits h3, lt_of_readNumber_digits h4⟩ h

/-! ### Pieces -/

section steps

variable {o n : Nat} {cs : List Char} (rest : List (List Char))

theorem pieces_remark (hopen : 0 < o ∨ 0 < n) (hbody : readBody? cs = none) :
    pieces o n (cs :: rest) = pieces o n rest := by
  rw [pieces, if_pos (by simpa using hopen), hbody]

theorem pieces_body {kind : Kind} {text : List Char} (hopen : 0 < o ∨ 0 < n)
    (hbody : readBody? cs = some (kind, text)) :
    pieces o n (cs :: rest) =
      (pieces (o - kind.isOld.toNat) (n - kind.isNew.toNat) rest).map (.body kind text :: ·) := by
  rw [pieces, if_pos (by simpa using hopen), hbody]
  rfl

theorem pieces_outside (hrange : readRange? cs = .ok none) :
    pieces 0 0 (cs :: rest) = (pieces 0 0 rest).map (.outside cs :: ·) := by
  rw [pieces, if_neg (by simp), hrange]
  rfl

theorem pieces_opening {range : Range} (hrange : readRange? cs = .ok (some range)) :
    pieces 0 0 (cs :: rest) =
      (pieces range.oldCount range.newCount rest).map (.opening range cs :: ·) := by
  rw [pieces, if_neg (by simp), hrange]
  rfl

theorem pieces_refused {f : Fault} (hrange : readRange? cs = .error f) :
    pieces 0 0 (cs :: rest) = .error f := by
  rw [pieces, if_neg (by simp), hrange]
  rfl

end steps

/-- The pieces of lines, while the hunk that is open takes lines of either version. -/
inductive Reads : Nat → Nat → List (List Char) → List Piece → Prop
  | done (o n : Nat) : Reads o n [] []
  | remark {o n : Nat} {cs : List Char} {rest : List (List Char)} {ps : List Piece}
      (hopen : 0 < o ∨ 0 < n) (hbody : readBody? cs = none) (h : Reads o n rest ps) :
      Reads o n (cs :: rest) ps
  | body {o n : Nat} {cs : List Char} {rest : List (List Char)} {ps : List Piece} {kind : Kind}
      {text : List Char} (hopen : 0 < o ∨ 0 < n) (hbody : readBody? cs = some (kind, text))
      (h : Reads (o - kind.isOld.toNat) (n - kind.isNew.toNat) rest ps) :
      Reads o n (cs :: rest) (.body kind text :: ps)
  | opening {cs : List Char} {rest : List (List Char)} {ps : List Piece} {range : Range}
      (hrange : readRange? cs = .ok (some range))
      (h : Reads range.oldCount range.newCount rest ps) :
      Reads 0 0 (cs :: rest) (.opening range cs :: ps)
  | outside {cs : List Char} {rest : List (List Char)} {ps : List Piece}
      (hrange : readRange? cs = .ok none) (h : Reads 0 0 rest ps) :
      Reads 0 0 (cs :: rest) (.outside cs :: ps)

open Stop in
/-- Lines are read by these steps, or reading stops at a header that is refused. -/
theorem reads_or_refused (o n : Nat) (ls : List (List Char)) :
    (∃ ps, pieces o n ls = .ok ps ∧ Reads o n ls ps) ∨
      ∃ f, pieces o n ls = .error f ∧ ∃ cs ∈ ls, readRange? cs = .error f := by
  induction ls generalizing o n with
  | nil => exact .inl ⟨[], rfl, .done o n⟩
  | cons cs rest ih =>
    -- what comes of the rest comes of all, with the piece of the line in front
    have hstep {o' n' : Nat} (add : List Piece → List Piece)
        (heq : pieces o n (cs :: rest) = (pieces o' n' rest).map add)
        (hreads : ∀ ps, Reads o' n' rest ps → Reads o n (cs :: rest) (add ps)) :
        (∃ ps, pieces o n (cs :: rest) = .ok ps ∧ Reads o n (cs :: rest) ps) ∨
          ∃ f, pieces o n (cs :: rest) = .error f ∧
            ∃ cs' ∈ cs :: rest, readRange? cs' = .error f := by
      obtain ⟨ps, hps, hrest⟩ | ⟨f, hf, cs', hmem, hcs'⟩ := ih o' n'
      · exact .inl ⟨add ps, by rw [heq, hps]; rfl, hreads ps hrest⟩
      · exact .inr ⟨f, by rw [heq, hf]; rfl, cs', List.mem_cons_of_mem _ hmem, hcs'⟩
    by_cases hopen : 0 < o ∨ 0 < n
    · cases hbody : readBody? cs with
      | none =>
        refine hstep id ?_ fun ps => .remark hopen hbody
        rw [pieces_remark rest hopen hbody]
        cases pieces o n rest <;> rfl
      | some e => exact hstep _ (pieces_body rest hopen hbody) fun ps => .body hopen hbody
    · obtain ⟨rfl, rfl⟩ : o = 0 ∧ n = 0 := by omega
      cases hrange : readRange? cs with
      | error f =>
        exact .inr ⟨f, pieces_refused rest hrange, cs, List.mem_cons_self, hrange⟩
      | ok r =>
        cases r with
        | none => exact hstep _ (pieces_outside rest hrange) fun ps => .outside hrange
        | some range => exact hstep _ (pieces_opening rest hrange) fun ps => .opening hrange

theorem reads_of_pieces {o n : Nat} {ls : List (List Char)} {ps : List Piece}
    (h : pieces o n ls = .ok ps) : Reads o n ls ps := by
  obtain ⟨qs, hqs, hreads⟩ | ⟨f, hf, -⟩ := reads_or_refused o n ls
  · obtain rfl : qs = ps := by simpa [hqs] using h
    exact hreads
  · simp [hf] at h

theorem exists_refused_of_pieces {o n : Nat} {ls : List (List Char)} {f : Fault}
    (h : pieces o n ls = .error f) : ∃ cs ∈ ls, readRange? cs = .error f := by
  obtain ⟨qs, hqs, -⟩ | ⟨g, hg, hrefused⟩ := reads_or_refused o n ls
  · simp [hqs] at h
  · obtain rfl : g = f := by simpa [hg] using h
    exact hrefused

end RuleReview.Diff
