import Mathlib.Data.Prod.Lex
import RuleReview.Proofs.Pattern.Local
import RuleReview.Proofs.Rule.Match

/-! Matches in a text. A scan of a line finds the nearest place at which there is a match, takes the
match there and goes on at its end, where after an empty match the next one has to move. The spans
of a pattern are what this scan finds: no place is left out, and neither the fuel nor the least
number of characters cuts it off. Proved: each match stands in the text where it says, the matches
come in the order of the text without a character in common, and on every line they are what a
scan of the line finds, but for what it finds without a character. The search for them ends by
itself. -/

namespace RuleReview.Pattern

variable {a : Pattern} {t : Line} {pos e : Nat} {move : Bool} {l l' : List (Nat × Nat)}

/-- What a scan finds from a place on, at which a match may have to move. -/
inductive Scans (a : Pattern) (t : Line) : (pos : Nat) → (move : Bool) → List (Nat × Nat) → Prop
  | finish {pos : Nat} {move : Bool} :
    (∀ p, pos ≤ p → p ≤ t.size → a.matchAt t p (move && p == pos) = none) →
    Scans a t pos move []
  | next {pos p e : Nat} {move : Bool} {rest : List (Nat × Nat)} :
    pos ≤ p → p ≤ t.size →
    (∀ q, pos ≤ q → q < p → a.matchAt t q (move && q == pos) = none) →
    a.matchAt t p (move && p == pos) = some e →
    Scans a t e (e == p) rest →
    Scans a t pos move ((p, e) :: rest)

/-- There is one result of a scan. -/
theorem Scans.eq (h : Scans a t pos move l) (h' : Scans a t pos move l') : l = l' := by
  induction h generalizing l' with
  | finish hnone =>
    cases h' with
    | finish => rfl
    | next hp hsize _ hmatch _ => cases (hnone _ hp hsize).symm.trans hmatch
  | @next pos p e move rest hp hsize hbefore hmatch _ ih =>
    cases h' with
    | finish hnone => cases (hnone _ hp hsize).symm.trans hmatch
    | @next _ p' e' _ rest' hp' hsize' hbefore' hmatch' hrest' =>
      -- neither match is before the other
      obtain hlt | rfl | hgt := Nat.lt_trichotomy p p'
      · cases (hbefore' _ hp hlt).symm.trans hmatch
      · obtain rfl := Option.some.inj (hmatch.symm.trans hmatch')
        rw [ih hrest']
      · cases (hbefore _ hp' hgt).symm.trans hmatch'

/-- A place without a match is passed over. -/
theorem Scans.skip (hnone : a.matchAt t pos move = none) (h : Scans a t (pos + 1) false l) :
    Scans a t pos move l := by
  have hhere {p : Nat} (hp : pos ≤ p) (hlater : pos + 1 ≤ p → a.matchAt t p false = none) :
      a.matchAt t p (move && p == pos) = none := by
    rcases Nat.eq_or_lt_of_le hp with rfl | hlt
    · simpa using hnone
    · have hne : (p == pos) = false := beq_eq_false_iff_ne.2 (by omega)
      rw [hne, Bool.and_false]
      exact hlater hlt
  cases h with
  | finish hrest =>
    exact .finish fun p hp hsize => hhere hp fun hlt => by simpa using hrest p hlt hsize
  | @next _ p e _ rest hp hsize hbefore hmatch hrest =>
    have hne : (p == pos) = false := beq_eq_false_iff_ne.2 (by omega)
    refine .next (by omega) hsize (fun q hq hlt => hhere hq fun hgt => ?_) ?_ hrest
    · simpa using hbefore q hgt hlt
    · rw [hne, Bool.and_false]
      simpa using hmatch

theorem ne_of_matchAt_move (h : a.matchAt t pos true = some e) (ht : t.IsAligned)
    (hpos : pos ≤ t.size) : e ≠ pos := by
  obtain ⟨m, p, -, -, hfinish⟩ := proceeds_run ht a false _ _ _ _ hpos h
  dsimp only at hfinish
  split at hfinish
  next => simp at hfinish
  next hmoved =>
    obtain rfl : p = e := Option.some.inj hfinish
    simpa using hmoved

/-- A search with fuel for every place on the line, and for a match without a character at each of
them, is a scan. -/
theorem scans_scan (ht : t.IsAligned) {fuel : Nat} (hpos : pos ≤ t.size)
    (hfuel : 2 * (t.size - pos) + (if move then 1 else 2) ≤ fuel) :
    Scans a t pos move (a.scan a.least t fuel pos move) := by
  induction fuel generalizing pos move with
  | zero => split at hfuel <;> omega
  | succ fuel ih =>
    rw [scan]
    split
    next hroom =>
      -- what is left of the line is too short for a match
      refine .finish fun p hp hsize => Option.eq_none_iff_forall_ne_some.2 fun e hmatch => ?_
      have hleast := add_least_le_of_matchAt ht hsize hmatch
      have hend := (matchAt_bounds ht hsize hmatch).2
      omega
    next =>
      split
      next e hmatch =>
        obtain ⟨hstart, hend⟩ := matchAt_bounds ht hpos hmatch
        have hsame : (move && pos == pos) = move := by simp
        refine .next (Nat.le_refl pos) hpos (fun q hq hlt => by omega) (by rwa [hsame]) (ih hend ?_)
        cases move with
        | true =>
          have hne := ne_of_matchAt_move hmatch ht hpos
          simp only [if_true, beq_iff_eq, if_neg hne] at hfuel ⊢
          omega
        | false =>
          simp only [Bool.false_eq_true, if_false, beq_iff_eq] at hfuel ⊢
          split <;> omega
      next hnone =>
        split
        next hlt =>
          refine .skip hnone (ih hlt ?_)
          simp only [Bool.false_eq_true, if_false]
          split at hfuel <;> omega
        next hge =>
          refine .finish fun p hp hsize => ?_
          obtain rfl : p = pos := by omega
          simpa using hnone

/-- The spans of a pattern are what a scan of the line finds. -/
theorem scans_iff (ht : t.IsAligned) : Scans a t 0 false l ↔ l = a.spans t := by
  have hspans : Scans a t 0 false (a.spans t) := scans_scan ht (Nat.zero_le _) (Nat.le_refl _)
  exact ⟨fun h => h.eq hspans, fun h => h ▸ hspans⟩

/-- With more fuel the search finds the same. -/
theorem scan_eq_spans (ht : t.IsAligned) {fuel : Nat} (h : 2 * t.size + 2 ≤ fuel) :
    a.scan a.least t fuel 0 false = a.spans t :=
  (scans_iff ht).1 (scans_scan ht (Nat.zero_le _) h)

/-! ### Order -/

/-- A span before another: it ends before the other one begins or where it begins, and is not the
same. -/
def Before (s u : Nat × Nat) : Prop := s.2 ≤ u.1 ∧ s ≠ u

theorem Scans.bounds (h : Scans a t pos move l) (ht : t.IsAligned) :
    ∀ s ∈ l, pos ≤ s.1 ∧ s.1 ≤ s.2 ∧ s.2 ≤ t.size ∧ (move = true → s ≠ (pos, pos)) := by
  induction h with
  | finish => simp
  | @next pos p e move rest hp hsize _ hmatch _ ih =>
    obtain ⟨hstart, hend⟩ := matchAt_bounds ht hsize hmatch
    refine List.forall_mem_cons.2 ⟨⟨hp, hstart, hend, ?_⟩, fun s hs => ?_⟩
    · rintro rfl heq
      obtain ⟨rfl, rfl⟩ := Prod.mk.inj heq
      rw [Bool.true_and, beq_self_eq_true] at hmatch
      exact ne_of_matchAt_move hmatch ht hsize rfl
    · obtain ⟨hle, hspan, hlast, hmoved⟩ := ih s hs
      refine ⟨by omega, hspan, hlast, ?_⟩
      rintro rfl rfl
      -- the place is that of the match before, which was empty
      obtain ⟨rfl, rfl⟩ : e = pos ∧ p = pos := by omega
      exact hmoved (beq_self_eq_true _) rfl

theorem Scans.pairwise_before (h : Scans a t pos move l) (ht : t.IsAligned) : l.Pairwise Before := by
  induction h with
  | finish => exact .nil
  | @next pos p e move rest hp hsize _ hmatch hrest ih =>
    refine List.pairwise_cons.2 ⟨fun s hs => ?_, ih⟩
    obtain ⟨hle, -, -, hmoved⟩ := hrest.bounds ht s hs
    refine ⟨hle, ?_⟩
    rintro rfl
    have hstart := (matchAt_bounds ht hsize hmatch).1
    obtain rfl : e = p := by omega
    exact hmoved (beq_self_eq_true e) rfl

/-- Spans come in the order of the line and have no character in common. -/
theorem pairwise_spans (ht : t.IsAligned) (a : Pattern) : (a.spans t).Pairwise Before :=
  ((scans_iff ht).2 rfl).pairwise_before ht

end RuleReview.Pattern

namespace RuleReview

namespace Pattern

/-- The search for a pattern on a line ends by itself: more fuel would change nothing, neither for
the scan of the line nor for a repetition in a match. -/
structure EndsOn (p : Pattern) (line : List Char) : Prop where
  scan : ∀ fuel, 2 * line.length + 2 ≤ fuel →
    p.scan p.least (.ofList line) fuel 0 false = p.spans (.ofList line)
  repeats : ∀ (a : Pattern) (inside inside' : Bool) (greed : Greed) (least : Nat)
    (most : Option Nat) (k : Rest) (m : Marks) (pos fuel : Nat), pos ≤ line.length →
    least + (line.length - pos) + 2 ≤ fuel →
    repeatFor fuel (a.run (.ofList line) inside) greed least most inside' k m pos =
      repeatAny (.ofList line) (a.run (.ofList line) inside) greed least most inside' k m pos

theorem endsOn (p : Pattern) (line : List Char) : p.EndsOn line where
  scan fuel h := scan_eq_spans (Line.isAligned_ofList line) (by rwa [Line.size_ofList])
  repeats a inside inside' greed least most k m pos fuel hpos h := by
    rw [← Line.size_ofList line] at hpos h
    exact repeatFor_eq_repeatAny (Line.isAligned_ofList line) a inside inside' greed least most k m
      hpos h

theorem Line.slice_ofList (cs : List Char) (first last : Nat) :
    (Line.ofList cs).slice first last = String.ofList ((cs.drop first).take (last - first)) := by
  simp [Line.slice, Line.ofList, List.extract_eq_take_drop]

end Pattern

namespace Rule

open Pattern (Scans Before)

/-- A match that stands in a text: on one of its lines, with characters that are those of the line
from its column on. -/
structure Match.StandsIn (code : List Char) (m : Match) : Prop where
  line_pos : 1 ≤ m.line
  column_pos : 1 ≤ m.column
  text_ne : m.text ≠ ""
  text_eq : ∃ row, (Text.rows code)[m.line - 1]? = some row ∧
    m.text.toList <+: (withoutReturns row).drop (m.column - 1)

/-- A match that begins before another one and, on the same line, ends before it begins. -/
def Match.Precedes (m n : Match) : Prop :=
  toLex (m.line, m.column) < toLex (n.line, n.column) ∧
    (m.line = n.line → m.column + m.text.length ≤ n.column)

def matchOf (number : Nat) (line : List Char) (s : Nat × Nat) : Match :=
  ⟨number, s.1 + 1, String.ofList ((line.drop s.1).take (s.2 - s.1)), baseConfidence⟩

variable {p : Pattern} {code line : List Char} {number : Nat} {m : Match} {s u : Nat × Nat}

/-! ### Lines -/

theorem lineMatches_ofList (p : Pattern) (number : Nat) (line : List Char) :
    lineMatches p number (.ofList line) =
      ((p.spans (.ofList line)).filter fun s => s.1 != s.2).map (matchOf number line) := by
  refine List.map_congr_left fun s _ => ?_
  rw [Pattern.Line.slice_ofList]
  rfl

theorem length_text_matchOf (hs : s ∈ p.spans (.ofList line)) :
    (matchOf number line s).text.length = s.2 - s.1 := by
  have hend := (p.span_bounds line hs).2
  simp only [matchOf, String.length_ofList, List.length_take, List.length_drop]
  omega

theorem matchOf_precedes (hs : s ∈ p.spans (.ofList line)) (hne : s.1 ≠ s.2) (h : Before s u) :
    (matchOf number line s).Precedes (matchOf number line u) := by
  have hspan := (p.span_bounds line hs).1
  have hbefore := h.1
  refine ⟨Prod.Lex.toLex_lt_toLex.2 (.inr ⟨rfl, ?_⟩), fun _ => ?_⟩
  · simp only [matchOf]
    omega
  · rw [length_text_matchOf hs]
    simp only [matchOf]
    omega

theorem pairwise_lineMatches (p : Pattern) (number : Nat) (line : List Char) :
    (lineMatches p number (.ofList line)).Pairwise Match.Precedes := by
  rw [lineMatches_ofList, List.pairwise_map]
  refine ((Pattern.pairwise_spans (Pattern.Line.isAligned_ofList line) p).filter _).imp_of_mem ?_
  intro s u hs _ hbefore
  obtain ⟨hs, hne⟩ := List.mem_filter.1 hs
  exact matchOf_precedes hs (bne_iff_ne.1 hne) hbefore

theorem standsIn_matchOf {n : Nat} {row : List Char} (hrow : (Text.rows code)[n]? = some row)
    (hs : s ∈ p.spans (.ofList (withoutReturns row))) (hne : s.1 ≠ s.2) :
    (matchOf (n + 1) (withoutReturns row) s).StandsIn code where
  line_pos := Nat.succ_pos n
  column_pos := Nat.succ_pos s.1
  text_ne hempty := by
    have hspan := (p.span_bounds _ hs).1
    have hlength : (matchOf (n + 1) (withoutReturns row) s).text.length = s.2 - s.1 :=
      length_text_matchOf hs
    rw [hempty, String.length_empty] at hlength
    omega
  text_eq := by
    refine ⟨row, hrow, ?_⟩
    simp only [matchOf, String.toList_ofList, Nat.add_sub_cancel]
    exact List.take_prefix _ _

/-! ### Texts -/

/-- Matches on lines that are put in order line by line. -/
theorem pairwise_matchesFrom (p : Pattern) (number : Nat) (lines : List (List Char)) :
    (matchesFrom p number (lines.map .ofList)).Pairwise Match.Precedes := by
  induction lines generalizing number with
  | nil => exact .nil
  | cons line lines ih =>
    rw [List.map_cons, matchesFrom]
    refine List.pairwise_append.2 ⟨pairwise_lineMatches p number line, ih (number + 1), ?_⟩
    intro m hm n hn
    have hline := line_of_mem_lineMatches hm
    obtain ⟨i, t, -, hn⟩ := mem_matchesFrom.1 hn
    have hlater := line_of_mem_lineMatches hn
    have hlt : m.line < n.line := by omega
    exact ⟨Prod.Lex.toLex_lt_toLex.2 (.inl hlt), fun hsame => absurd hsame hlt.ne⟩

theorem pairwise_findMatches (p : Pattern) (code : List Char) :
    (findMatches p code).Pairwise Match.Precedes := by
  have hlines : codeLines code = ((Text.rows code).map withoutReturns).map .ofList := by
    rw [List.map_map]
    rfl
  rw [findMatches, hlines]
  exact pairwise_matchesFrom p 1 _

/-- The matches on a line are those of its spans that have a character. -/
theorem filter_line_eq_map_matchOf (p : Pattern) {n : Nat} {row : List Char}
    (hrow : (Text.rows code)[n]? = some row) :
    (findMatches p code).filter (·.line = n + 1) =
      ((p.spans (.ofList (withoutReturns row))).filter fun s => s.1 != s.2).map
        (matchOf (n + 1) (withoutReturns row)) := by
  have hline : (codeLines code)[n]? = some (.ofList (withoutReturns row)) := by
    rw [codeLines, List.getElem?_map, hrow]
    rfl
  rw [Nat.add_comm n 1, findMatches, filter_line_matchesFrom p 1 hline, lineMatches_ofList]

theorem standsIn_of_mem_findMatches (h : m ∈ findMatches p code) : m.StandsIn code := by
  obtain ⟨n, t, ht, hm⟩ := mem_matchesFrom.1 h
  rw [codeLines, List.getElem?_map, Option.map_eq_some_iff] at ht
  obtain ⟨row, hrow, rfl⟩ := ht
  rw [lineMatches_ofList, Nat.add_comm 1 n] at hm
  obtain ⟨s, hs, rfl⟩ := List.mem_map.1 hm
  obtain ⟨hs, hne⟩ := List.mem_filter.1 hs
  exact standsIn_matchOf hrow hs (bne_iff_ne.1 hne)

/-- There is one match at the place of a span. -/
theorem filter_place_eq_singleton {n : Nat} {row : List Char}
    (hrow : (Text.rows code)[n]? = some row)
    (hs : s ∈ p.spans (.ofList (withoutReturns row))) (hne : s.1 ≠ s.2) :
    (findMatches p code).filter (fun m => m.line = n + 1 ∧ m.column = s.1 + 1) =
      [matchOf (n + 1) (withoutReturns row) s] := by
  have hmem : matchOf (n + 1) (withoutReturns row) s ∈
      (findMatches p code).filter (fun m => m.line = n + 1 ∧ m.column = s.1 + 1) := by
    have hline : matchOf (n + 1) (withoutReturns row) s ∈
        (findMatches p code).filter (·.line = n + 1) := by
      rw [filter_line_eq_map_matchOf p hrow]
      exact List.mem_map_of_mem (List.mem_filter.2 ⟨hs, bne_iff_ne.2 hne⟩)
    exact List.mem_filter.2 ⟨(List.mem_filter.1 hline).1, by simp [matchOf]⟩
  -- two matches in order do not begin at one place
  have hpairwise := (pairwise_findMatches p code).filter
    (fun m => m.line = n + 1 ∧ m.column = s.1 + 1)
  generalize hfound : (findMatches p code).filter
    (fun m => m.line = n + 1 ∧ m.column = s.1 + 1) = found at hmem hpairwise
  have hplace : ∀ m ∈ found, m.line = n + 1 ∧ m.column = s.1 + 1 := by
    rintro m hm
    rw [← hfound] at hm
    simpa using (List.mem_filter.1 hm).2
  match found with
  | [] => cases hmem
  | [m] => rw [List.mem_singleton.1 hmem]
  | m :: m' :: _ =>
    have hlt := ((List.pairwise_cons.1 hpairwise).1 m' List.mem_cons_self).1
    obtain ⟨hline, hcolumn⟩ := hplace m List.mem_cons_self
    obtain ⟨hline', hcolumn'⟩ := hplace m' (List.mem_cons_of_mem _ List.mem_cons_self)
    rw [hline, hcolumn, hline', hcolumn'] at hlt
    exact absurd hlt (lt_irrefl _)

/-- Matches are genuine, in order and apart, and on every line they are what a scan of the line
finds, each match with a character once. The search for them ends by itself. -/
theorem findMatches_of_scans (p : Pattern) (code : List Char) :
    (∀ m ∈ findMatches p code, m.StandsIn code) ∧
    (findMatches p code).Pairwise Match.Precedes ∧
    (∀ n row, (Text.rows code)[n]? = some row →
      p.EndsOn (withoutReturns row) ∧
      ∃ spans, (∀ l, p.Scans (.ofList (withoutReturns row)) 0 false l ↔ l = spans) ∧
        spans.Pairwise Before ∧
        (findMatches p code).filter (·.line = n + 1) =
          (spans.filter fun s => s.1 != s.2).map (matchOf (n + 1) (withoutReturns row)) ∧
        ∀ s ∈ spans, s.1 ≠ s.2 →
          (findMatches p code).filter (fun m => m.line = n + 1 ∧ m.column = s.1 + 1) =
            [matchOf (n + 1) (withoutReturns row) s]) := by
  refine ⟨fun m => standsIn_of_mem_findMatches, pairwise_findMatches p code, fun n row hrow => ?_⟩
  have haligned := Pattern.Line.isAligned_ofList (withoutReturns row)
  exact ⟨p.endsOn _, p.spans (.ofList (withoutReturns row)), fun l => Pattern.scans_iff haligned,
    Pattern.pairwise_spans haligned p, filter_line_eq_map_matchOf p hrow,
    fun s hs hne => filter_place_eq_singleton hrow hs hne⟩

def anyLetters : Pattern := .repeated .greedy 0 none (.set ⟨.exact, false, [.one 120]⟩)

/-- Two letters on the first line, none on the second one, and one on the last. -/
def lettersCode : List Char := "axx\r\n\nx".toList

/-- A pattern that matches nothing at some places is found where it matches something. -/
theorem findMatches_of_scans_letters :
    (findMatches anyLetters lettersCode).map (fun m => (m.line, m.column, m.text)) =
      [(1, 2, "xx"), (3, 1, "x")] ∧
    (∀ m ∈ findMatches anyLetters lettersCode, m.StandsIn lettersCode) ∧
    anyLetters.EndsOn "axx".toList ∧
    anyLetters.Scans (.ofList "axx".toList) 0 false [(0, 0), (1, 3), (3, 3)] ∧
    (findMatches anyLetters lettersCode).filter (fun m => m.line = 1 ∧ m.column = 2) =
      [matchOf 1 "axx".toList (1, 3)] := by
  obtain ⟨hstands, -, hlines⟩ := findMatches_of_scans anyLetters lettersCode
  have hrow : (Text.rows lettersCode)[0]? = some "axx\r".toList := by decide +kernel
  have hline : withoutReturns "axx\r".toList = "axx".toList := by decide +kernel
  obtain ⟨hends, spans, hscans, -, -, hplace⟩ := hlines 0 _ hrow
  rw [hline] at hends hscans hplace
  have hspans : [(0, 0), (1, 3), (3, 3)] = spans := by
    have hvalue : anyLetters.spans (.ofList "axx".toList) = [(0, 0), (1, 3), (3, 3)] := by
      decide +kernel
    rw [← hvalue]
    exact (hscans _).1 ((Pattern.scans_iff (Pattern.Line.isAligned_ofList _)).2 rfl)
  refine ⟨by decide +kernel, hstands, hends, (hscans _).2 hspans, ?_⟩
  exact hplace (1, 3) (by rw [← hspans]; decide) (by decide)

end Rule

end RuleReview
