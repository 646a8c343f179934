import Mathlib.Algebra.GroupWithZero.Nat
import Mathlib.Algebra.Order.BigOperators.Group.List
import Mathlib.Algebra.Order.Group.Nat
import Mathlib.Data.List.SplitBy
import Mathlib.Data.List.TakeWhile
import RuleReview.Console.Print
import RuleReview.Proofs.Text

/-! What is printed on a console. Texts without an opening bracket have no tags, so that nothing in
them is refused. Breaking a text into lines only parts it, and no more characters are printed than
are seen of it. Where every character takes one cell, the lines have room for their characters, so
that no more than blanks at their ends is cut away. A text that has room on one line is printed as
it is, but for such blanks. -/

namespace RuleReview

/-! ### Cells -/

namespace Text

section cellsAfter

variable {last : Option Char} {c : Char} {cs : List Char}

theorem cellsAfter_step (last : Option Char) (c : Char) (cs : List Char) :
    cellsAfter last (c :: cs) =
      if c = joiner then cellsAfter last cs.tail
      else if c = wideSelector then widening last + cellsAfter none cs
      else if cellsOf c = 0 then cellsAfter last cs
      else cellsOf c + cellsAfter (some c) cs := by
  cases cs <;> rfl

theorem cellsAfter_joiner : cellsAfter last (joiner :: c :: cs) = cellsAfter last cs := by
  rw [cellsAfter_step, if_pos rfl, List.tail_cons]

theorem cellsAfter_selector :
    cellsAfter last (wideSelector :: cs) = widening last + cellsAfter none cs := by
  rw [cellsAfter_step, if_neg (by decide), if_pos rfl]

theorem cellsAfter_mark (hjoiner : c ≠ joiner) (hselector : c ≠ wideSelector)
    (hzero : cellsOf c = 0) : cellsAfter last (c :: cs) = cellsAfter last cs := by
  rw [cellsAfter_step, if_neg hjoiner, if_neg hselector, if_pos hzero]

theorem cellsAfter_cons (hjoiner : c ≠ joiner) (hselector : c ≠ wideSelector)
    (hcells : cellsOf c ≠ 0) :
    cellsAfter last (c :: cs) = cellsOf c + cellsAfter (some c) cs := by
  rw [cellsAfter_step, if_neg hjoiner, if_neg hselector, if_neg hcells]

end cellsAfter

/-- A character before a text may only widen it. -/
theorem cells_le_cellsAfter (last : Option Char) (cs : List Char) :
    cells cs ≤ cellsAfter last cs := by
  rw [cells]
  fun_induction cellsAfter last cs with
  | case1 => exact Nat.le_refl 0
  | case2 => exact Nat.le_refl 0
  | case3 last d cs ih => rwa [cellsAfter_joiner]
  | case4 last cs =>
    rw [cellsAfter_selector]
    exact Nat.add_le_add_right (Nat.zero_le _) _
  | case5 last c cs hjoiner hselector hzero ih => rwa [cellsAfter_mark hjoiner hselector hzero]
  | case6 last c cs hjoiner hselector hcells =>
    rw [cellsAfter_cons hjoiner hselector hcells]

/-- A text takes the cells of its front and of the rest, unless a joiner at the end of the front
takes a character of the rest away. -/
theorem cells_add_le {last : Option Char} {as : List Char} (h : as.getLast? ≠ some joiner)
    (bs : List Char) : cellsAfter last as + cells bs ≤ cellsAfter last (as ++ bs) := by
  fun_induction cellsAfter last as with
  | case1 last => simpa using cells_le_cellsAfter last bs
  | case2 => exact absurd rfl h
  | case3 last d as ih =>
    rw [List.cons_append, List.cons_append, cellsAfter_joiner]
    exact ih fun hlast => h (by rw [List.getLast?_cons, List.getLast?_cons, hlast]; rfl)
  | case4 last as _ ih =>
    rw [List.cons_append, cellsAfter_selector, Nat.add_assoc]
    exact Nat.add_le_add_left (ih fun hlast => h (by rw [List.getLast?_cons, hlast]; rfl)) _
  | case5 last c as hjoiner hselector hzero ih =>
    rw [List.cons_append, cellsAfter_mark hjoiner hselector hzero]
    exact ih fun hlast => h (by rw [List.getLast?_cons, hlast]; rfl)
  | case6 last c as hjoiner hselector hcells ih =>
    rw [List.cons_append, cellsAfter_cons hjoiner hselector hcells, Nat.add_assoc]
    exact Nat.add_le_add_left (ih fun hlast => h (by rw [List.getLast?_cons, hlast]; rfl)) _

theorem cells_le_append (last : Option Char) (as bs : List Char) :
    cellsAfter last as ≤ cellsAfter last (as ++ bs) := by
  fun_induction cellsAfter last as with
  | case1 => exact Nat.zero_le _
  | case2 => exact Nat.zero_le _
  | case3 last d as ih => rwa [List.cons_append, List.cons_append, cellsAfter_joiner]
  | case4 last as _ ih =>
    rw [List.cons_append, cellsAfter_selector]
    exact Nat.add_le_add_left ih _
  | case5 last c as hjoiner hselector hzero ih =>
    rwa [List.cons_append, cellsAfter_mark hjoiner hselector hzero]
  | case6 last c as hjoiner hselector hcells ih =>
    rw [List.cons_append, cellsAfter_cons hjoiner hselector hcells]
    exact Nat.add_le_add_left ih _

/-- A text in which every character takes one cell. -/
def OneCell (cs : List Char) : Prop := ∀ c ∈ cs, cellsOf c = 1

theorem ne_of_cellsOf {c d : Char} (h : cellsOf c = 1) (hd : cellsOf d = 0) : c ≠ d := by
  rintro rfl
  exact absurd (h.symm.trans hd) (by decide)

theorem cellsOf_joiner : cellsOf joiner = 0 := by decide +kernel

theorem cellsOf_wideSelector : cellsOf wideSelector = 0 := by decide +kernel

theorem cells_of_oneCell {cs : List Char} (h : OneCell cs) : cells cs = cs.length := by
  rw [cells]
  generalize none = last
  induction cs generalizing last with
  | nil => rfl
  | cons c cs ih =>
    obtain ⟨hc, hcs⟩ := List.forall_mem_cons.1 h
    rw [cellsAfter_cons (ne_of_cellsOf hc cellsOf_joiner) (ne_of_cellsOf hc cellsOf_wideSelector)
      (hc ▸ Nat.one_ne_zero), hc, ih hcs, List.length_cons]
    exact Nat.add_comm 1 _

namespace Grapheme

theorem flatMap_text_extend (cs : List Char) (cells : Nat) (before : List Grapheme) :
    (extend cs cells before).reverse.flatMap text = before.reverse.flatMap text ++ cs := by
  cases before with
  | nil => simp [extend]
  | cons g gs => simp [extend]

theorem flatMap_text_after (before : List Grapheme) (last : Option Char) (cs : List Char) :
    (after before last cs).flatMap text = before.reverse.flatMap text ++ cs := by
  fun_induction after before last cs with
  | case1 => simp
  | case2 before last c h => rw [flatMap_text_extend]
  | case3 before last c h d cs ih => rw [ih, flatMap_text_extend]; simp
  | case4 before last cs more h ih => rw [ih, flatMap_text_extend]; simp
  | case5 before last c cs h hc hzero ih => rw [ih, flatMap_text_extend]; simp
  | case6 before last c cs h hc hzero ih => rw [ih]; simp

/-- Graphemes are the text in parts. -/
theorem flatMap_text_ofList (cs : List Char) : (ofList cs).flatMap text = cs :=
  flatMap_text_after [] none cs

theorem after_of_oneCell {cs : List Char} (h : OneCell cs) (before : List Grapheme)
    (last : Option Char) :
    after before last cs = before.reverse ++ cs.map fun c => ⟨[c], 1⟩ := by
  induction cs generalizing before last with
  | nil => simp [after]
  | cons c cs ih =>
    obtain ⟨hc, hcs⟩ := List.forall_mem_cons.1 h
    have hjoiner : (decide (c = joiner) && !before.isEmpty) = false := by
      rw [decide_eq_false (ne_of_cellsOf hc cellsOf_joiner), Bool.false_and]
    rw [after.eq_def]
    simp only [hjoiner, if_neg (ne_of_cellsOf hc cellsOf_wideSelector), hc, Nat.one_ne_zero,
      if_false, ih hcs, Bool.false_eq_true]
    simp

theorem ofList_of_oneCell {cs : List Char} (h : OneCell cs) :
    ofList cs = cs.map fun c => ⟨[c], 1⟩ := after_of_oneCell h [] none

theorem text_ne_nil_extend {cs : List Char} (hcs : cs ≠ []) {cells : Nat}
    {before : List Grapheme} (h : ∀ g ∈ before, g.text ≠ []) :
    ∀ g ∈ extend cs cells before, g.text ≠ [] := by
  cases before with
  | nil => simpa [extend] using hcs
  | cons g gs =>
    obtain ⟨-, hgs⟩ := List.forall_mem_cons.1 h
    exact List.forall_mem_cons.2 ⟨List.append_ne_nil_of_right_ne_nil _ hcs, hgs⟩

theorem text_ne_nil_after {before : List Grapheme} (h : ∀ g ∈ before, g.text ≠ [])
    (last : Option Char) (cs : List Char) : ∀ g ∈ after before last cs, g.text ≠ [] := by
  fun_induction after before last cs with
  | case1 => simpa using h
  | case2 before last c _ =>
    simpa using text_ne_nil_extend (List.cons_ne_nil c []) h
  | case3 before last c _ d cs ih => exact ih (text_ne_nil_extend (List.cons_ne_nil _ _) h)
  | case4 before last cs more _ ih => exact ih (text_ne_nil_extend (List.cons_ne_nil _ _) h)
  | case5 before last c cs _ _ _ ih => exact ih (text_ne_nil_extend (List.cons_ne_nil _ _) h)
  | case6 before last c cs _ _ _ ih =>
    exact ih (List.forall_mem_cons.2 ⟨List.cons_ne_nil _ _, h⟩)

/-- The blank for a grapheme that is cut is no longer than the grapheme. -/
theorem length_take_le {gs : List Grapheme} (h : ∀ g ∈ gs, g.text ≠ []) (n : Nat) :
    (take n gs).length ≤ (gs.flatMap text).length := by
  fun_induction take n gs with
  | case1 => exact Nat.zero_le _
  | case2 => exact Nat.zero_le _
  | case3 n g gs hn hroom ih =>
    rw [List.flatMap_cons, List.length_append, List.length_append]
    exact Nat.add_le_add_left (ih (List.forall_mem_cons.1 h).2) _
  | case4 n g gs hn hroom =>
    have hg : 0 < g.text.length := List.length_pos_of_ne_nil (List.forall_mem_cons.1 h).1
    rw [List.flatMap_cons, List.length_append, List.length_singleton]
    omega

end Grapheme

theorem length_fit_le {n : Nat} {cs : List Char} (h : n < cells cs) :
    (fit n cs).length ≤ cs.length := by
  have hlength :=
    Grapheme.length_take_le (Grapheme.text_ne_nil_after (List.forall_mem_nil _) none cs) n
  rw [Grapheme.flatMap_text_after] at hlength
  rw [fit, if_neg (Nat.not_le.2 h)]
  simpa [Grapheme.ofList] using hlength

end Text

namespace Console

open Text (Grapheme OneCell)

/-! ### Tags -/

theorem Markup.parts_eq_plain {cs : List Char} (h : '[' ∉ cs) : Markup.parts cs = [.plain cs] := by
  rw [parts, Text.splitOn_eq_singleton h]
  rfl

theorem Markup.read_of_notMem {s : String} (h : '[' ∉ s.toList) :
    Markup.read s = .ok (Emoji.replace (unescape s.toList) ++ []) := by
  rw [read, Markup.parts_eq_plain h]
  rfl

theorem isOk_marked (width : Nat) (s : String) :
    (marked width s).isOk = (Markup.read s).isOk := by
  rw [marked]
  cases Markup.read s <;> rfl

theorem isOk_marked_of_notMem {s : String} (h : '[' ∉ s.toList) (width : Nat) :
    (marked width s).isOk = true := by
  rw [isOk_marked, Markup.read_of_notMem h]
  rfl

/-! ### Parts of a width -/

theorem flatten_prependTo (cs : List Char) (ls : List (List Char)) :
    (prependTo cs ls).flatten = cs ++ ls.flatten := by
  cases ls <;> simp [prependTo]

theorem flatten_chopFrom (width used : Nat) (gs : List Grapheme) :
    (chopFrom width used gs).flatten = gs.flatMap (·.text) := by
  induction gs generalizing used with
  | nil => rfl
  | cons g gs ih =>
    rw [chopFrom]
    split <;> simp [flatten_prependTo, ih]

theorem flatten_chop (width : Nat) (cs : List Char) : (chop width cs).flatten = cs := by
  rw [chop, flatten_chopFrom, Grapheme.flatMap_text_ofList]

/-- Parts that are no longer than a width, the first one together with what is used of it. -/
def FitFrom (width used : Nat) : List (List Char) → Prop
  | [] => used ≤ width
  | l :: ls => used + l.length ≤ width ∧ ∀ l ∈ ls, l.length ≤ width

theorem FitFrom.prependTo {width used : Nat} {ls : List (List Char)} (c : Char)
    (h : FitFrom width (used + 1) ls) : FitFrom width used (prependTo [c] ls) := by
  cases ls with
  | nil => exact ⟨h, by simp⟩
  | cons l ls =>
    refine ⟨?_, h.2⟩
    have hlength := h.1
    simp only [List.singleton_append, List.length_cons]
    omega

theorem FitFrom.length_le {width used : Nat} {ls : List (List Char)} (h : FitFrom width used ls)
    {l : List Char} (hl : l ∈ ls) : l.length ≤ width := by
  cases ls with
  | nil => cases hl
  | cons l' ls =>
    rcases List.mem_cons.1 hl with rfl | hl
    · have hfirst := h.1
      omega
    · exact h.2 l hl

theorem fitFrom_chopFrom {width : Nat} (hwidth : 0 < width) {used : Nat} (hused : used ≤ width)
    (cs : List Char) : FitFrom width used (chopFrom width used (cs.map fun c => ⟨[c], 1⟩)) := by
  induction cs generalizing used with
  | nil => exact ⟨hused, by simp⟩
  | cons c cs ih =>
    rw [List.map_cons, chopFrom]
    split
    next =>
      -- the character starts the next part
      have hnext : FitFrom width 0 (prependTo [c] (chopFrom width 1 (cs.map fun c => ⟨[c], 1⟩))) :=
        (ih hwidth).prependTo c
      exact ⟨hused, fun l hl => hnext.length_le hl⟩
    next hfits => exact (ih (Nat.le_of_not_lt hfits)).prependTo c

theorem length_le_of_mem_chop {width : Nat} (hwidth : 0 < width) {cs : List Char}
    (hcells : OneCell cs) {l : List Char} (hl : l ∈ chop width cs) : l.length ≤ width := by
  rw [chop, Grapheme.ofList_of_oneCell hcells] at hl
  exact (fitFrom_chopFrom hwidth (Nat.zero_le _) cs).length_le hl

/-! ### Lines -/

namespace Breaking

theorem flatten_lines (b : Breaking) : b.lines.flatten = b.done.flatten ++ b.current := by
  rw [lines, List.flatten_append, List.flatten_singleton]

theorem current_newLine (b : Breaking) : b.newLine.current = [] := by
  rw [newLine]
  split
  next h => simpa using (Bool.and_eq_true_iff.1 h).2
  next => rfl

theorem flatten_lines_newLine (b : Breaking) : b.newLine.lines.flatten = b.lines.flatten := by
  rw [flatten_lines, current_newLine, List.append_nil, newLine]
  split
  next h =>
    have hcurrent : b.current = [] := by simpa using (Bool.and_eq_true_iff.1 h).2
    rw [flatten_lines, hcurrent, List.append_nil]
  next => rw [flatten_lines, List.flatten_append, List.flatten_singleton]

theorem flatten_lines_onNewLine (b : Breaking) (cs : List Char) :
    (b.onNewLine cs).lines.flatten = b.lines.flatten ++ cs := by
  rw [← flatten_lines_newLine b, flatten_lines, flatten_lines, List.append_assoc]
  rfl

theorem flatten_lines_foldl_onNewLine (b : Breaking) (parts : List (List Char)) :
    (parts.foldl onNewLine b).lines.flatten = b.lines.flatten ++ parts.flatten := by
  induction parts generalizing b with
  | nil => simp
  | cons part parts ih =>
    rw [List.foldl_cons, ih, flatten_lines_onNewLine, List.append_assoc, List.flatten_cons]

/-- A word comes after what is set already. -/
theorem flatten_lines_add (width : Nat) (o : Overflow) (b : Breaking) (word : List Char) :
    (b.add width o word).lines.flatten = b.lines.flatten ++ word := by
  rw [add]
  split
  next => rw [flatten_lines, flatten_lines, List.append_assoc]
  next =>
    split
    next => rw [flatten_lines_foldl_onNewLine, flatten_chop]
    next => exact flatten_lines_onNewLine b word

theorem flatten_lines_foldl_add (width : Nat) (o : Overflow) (b : Breaking)
    (words : List (List Char)) :
    (words.foldl (add width o) b).lines.flatten = b.lines.flatten ++ words.flatten := by
  induction words generalizing b with
  | nil => simp
  | cons word words ih =>
    rw [List.foldl_cons, ih, flatten_lines_add, List.append_assoc, List.flatten_cons]

end Breaking

theorem flatten_wordsOf {cs : List Char} (h : wordsOf cs ≠ []) : (wordsOf cs).flatten = cs := by
  have hparts := List.flatten_splitBy staysInWord cs
  rw [wordsOf] at h ⊢
  split at h
  next => exact absurd rfl h
  next word hsplit =>
    rw [hsplit] at hparts
    split at h
    next => exact absurd rfl h
    next hword => simpa [hword] using hparts
  next word next rest hsplit =>
    rw [hsplit] at hparts
    split <;> simpa using hparts

def EndsBlank (cs : List Char) : Prop := ∃ c ∈ cs.getLast?, Text.isBlank c = true

theorem endsBlank_of_isChain {words : List (List Char)} (h : words.IsChain fun a b =>
    ∃ ha hb, staysInWord (a.getLast ha) (b.head hb) = false) :
    ∀ word ∈ words.dropLast, EndsBlank word := by
  induction words with
  | nil => nofun
  | cons word words ih =>
    cases words with
    | nil => nofun
    | cons next words =>
      obtain ⟨⟨ha, hb, hparts⟩, hrest⟩ := List.isChain_cons_cons.1 h
      have hword : EndsBlank word := by
        refine ⟨word.getLast ha, List.getLast?_eq_some_getLast ha, ?_⟩
        rw [staysInWord, Bool.not_eq_false'] at hparts
        exact (Bool.and_eq_true_iff.1 hparts).1
      exact List.forall_mem_cons.2 ⟨hword, ih hrest⟩

/-- A blank parts a word from the next one. -/
theorem endsBlank_of_mem_wordsOf {cs word : List Char} (h : word ∈ (wordsOf cs).dropLast) :
    EndsBlank word := by
  have hchain := List.isChain_getLast_head_splitBy staysInWord cs
  rw [wordsOf] at h
  split at h
  next => cases h
  next => split at h <;> cases h
  next first next rest hsplit =>
    rw [hsplit] at hchain
    split at h
    next =>
      have hnext := endsBlank_of_isChain (List.isChain_cons_cons.1 hchain).2
      cases rest with
      | nil => cases h
      | cons third rest =>
        obtain ⟨⟨c, hc, hblank⟩, hrest⟩ := List.forall_mem_cons.1 hnext
        rcases List.mem_cons.1 h with rfl | h
        · exact ⟨c, by rw [List.getLast?_append, Option.mem_def.1 hc]; rfl, hblank⟩
        · exact hrest _ h
    next => exact endsBlank_of_isChain hchain _ h

theorem EndsBlank.getLast?_ne {cs : List Char} (h : EndsBlank cs) :
    cs.getLast? ≠ some Text.joiner := by
  obtain ⟨c, hc, hblank⟩ := h
  intro hlast
  obtain rfl := Option.mem_unique hc hlast
  exact absurd hblank (by decide)

/-- The lines of a text are the text in parts. -/
theorem flatten_breakLine (width : Nat) (o : Overflow) (cs : List Char) :
    (breakLine width o cs).flatten = cs := by
  rw [breakLine]
  split
  next => simp
  next hwords =>
    rw [Breaking.flatten_lines_foldl_add, flatten_wordsOf hwords]
    rfl

/-! ### Room -/

def ink (cs : List Char) : List Char := cs.filter fun c => !Text.isBlank c

theorem ink_append (as bs : List Char) : ink (as ++ bs) = ink as ++ ink bs := List.filter_append ..

theorem ink_eq_nil {cs : List Char} (h : ∀ c ∈ cs, Text.isBlank c = true) : ink cs = [] :=
  List.filter_eq_nil_iff.2 fun c hc => by simp [h c hc]

/-- A text and the characters at its end that satisfy `p`. -/
theorem exists_trailing (p : Char → Bool) (cs : List Char) :
    ∃ front trailing, cs = front ++ trailing ∧ Text.dropEndWhile p cs = front ∧
      (cs.reverse.takeWhile p).length = trailing.length ∧ ∀ c ∈ trailing, p c = true := by
  refine ⟨_, (cs.reverse.takeWhile p).reverse, ?_, rfl, List.length_reverse.symm, ?_⟩
  · rw [Text.dropEndWhile, ← List.reverse_append, List.takeWhile_append_dropWhile,
      List.reverse_reverse]
  · intro c hc
    exact List.all_eq_true.1 List.all_takeWhile c (List.mem_reverse.1 hc)

theorem trimEnd_isFront (cs : List Char) : Text.trimEnd cs <+: cs := by
  obtain ⟨front, trailing, hcs, hfront, -⟩ := exists_trailing Text.isBlank cs
  exact ⟨trailing, by rw [Text.trimEnd, hfront, hcs]⟩

theorem length_trimEnd_append_le (as bs : List Char) :
    (Text.trimEnd (as ++ bs)).length ≤ as.length + (Text.trimEnd bs).length := by
  rw [Text.trimEnd, Text.dropEndWhile, List.reverse_append, List.dropWhile_append]
  split
  next =>
    have hrest := (trimEnd_isFront as).length_le
    rw [Text.trimEnd, Text.dropEndWhile] at hrest
    omega
  next =>
    simp only [Text.trimEnd, Text.dropEndWhile, List.length_reverse, List.length_append]
    omega

theorem cells_trimEnd {cs : List Char} (h : OneCell cs) :
    Text.cells (Text.trimEnd cs) = (Text.trimEnd cs).length :=
  Text.cells_of_oneCell fun c hc => h c ((trimEnd_isFront cs).subset hc)

namespace Breaking

/-- Lines that have room for their characters, but for blanks at their ends. -/
structure Fits (width : Nat) (b : Breaking) : Prop where
  used : b.used = b.current.length
  lines : ∀ l ∈ b.lines, (Text.trimEnd l).length ≤ width

variable {width : Nat} {b : Breaking} {word : List Char}

theorem mem_lines_onNewLine {cs l : List Char} (h : l ∈ (b.onNewLine cs).lines) :
    l ∈ b.lines ∨ l = cs := by
  rw [lines, onNewLine, current_newLine, List.nil_append] at h
  rcases List.mem_append.1 h with h | h
  · rw [newLine] at h
    split at h
    next => exact .inl (List.mem_append_left _ h)
    next => exact .inl h
  · exact .inr (List.mem_singleton.1 h)

theorem Fits.onNewLine (h : b.Fits width) (hcells : OneCell word)
    (hword : (Text.trimEnd word).length ≤ width) : (b.onNewLine word).Fits width where
  used := by
    rw [Breaking.onNewLine, current_newLine, List.nil_append]
    exact Text.cells_of_oneCell hcells
  lines l hl := by
    rcases mem_lines_onNewLine hl with hl | rfl
    · exact h.lines l hl
    · exact hword

theorem Fits.foldl_onNewLine {parts : List (List Char)} (h : b.Fits width)
    (hcells : ∀ part ∈ parts, OneCell part) (hparts : ∀ part ∈ parts, part.length ≤ width) :
    (parts.foldl Breaking.onNewLine b).Fits width := by
  induction parts generalizing b with
  | nil => exact h
  | cons part parts ih =>
    rw [List.forall_mem_cons] at hcells hparts
    have hpart := (trimEnd_isFront part).length_le.trans hparts.1
    exact ih (h.onNewLine hcells.1 hpart) hcells.2 hparts.2

theorem Fits.add (hwidth : 0 < width) (h : b.Fits width) (hcells : OneCell word) :
    (b.add width .fold word).Fits width := by
  rw [Breaking.add, cells_trimEnd hcells]
  split
  next hroom =>
    refine ⟨?_, fun l hl => ?_⟩
    · rw [h.used, Text.cells_of_oneCell hcells, List.length_append]
    · rcases List.mem_append.1 hl with hl | hl
      · exact h.lines l (List.mem_append_left _ hl)
      · rw [List.mem_singleton.1 hl]
        have hlength := length_trimEnd_append_le b.current word
        rw [h.used] at hroom
        exact hlength.trans hroom
  next =>
    split
    next =>
      refine h.foldl_onNewLine (fun part hpart c hc => hcells c ?_) fun part hpart =>
        length_le_of_mem_chop hwidth hcells hpart
      rw [← flatten_chop width word]
      exact List.mem_flatten_of_mem hpart hc
    next hwide =>
      refine h.onNewLine hcells ?_
      simpa using hwide

theorem Fits.foldl_add (hwidth : 0 < width) {words : List (List Char)} (h : b.Fits width)
    (hcells : ∀ word ∈ words, OneCell word) :
    (words.foldl (Breaking.add width .fold) b).Fits width := by
  induction words generalizing b with
  | nil => exact h
  | cons word words ih =>
    rw [List.forall_mem_cons] at hcells
    exact ih (h.add hwidth hcells.1) hcells.2

/-- Words that have room on one line stay there. -/
theorem foldl_add_of_cells_le {words : List (List Char)} (hdone : b.done = [])
    (hwords : ∀ word ∈ words.dropLast, word.getLast? ≠ some Text.joiner)
    (hroom : b.used + Text.cells words.flatten ≤ width) :
    (words.foldl (Breaking.add width .fold) b).lines = [b.current ++ words.flatten] := by
  induction words generalizing b with
  | nil => simp [lines, hdone]
  | cons word words ih =>
    have hparts : Text.cells word + Text.cells words.flatten ≤
        Text.cells (word ++ words.flatten) := by
      cases words with
      | nil => rw [List.flatten_nil, List.append_nil]; rfl
      | cons next words => exact Text.cells_add_le (hwords word List.mem_cons_self) _
    have hneeded : Text.cells (Text.trimEnd word) ≤ Text.cells word := by
      obtain ⟨trailing, htrailing⟩ := trimEnd_isFront word
      conv_rhs => rw [← htrailing]
      exact Text.cells_le_append none _ _
    have hrest : ∀ word ∈ words.dropLast, word.getLast? ≠ some Text.joiner := by
      intro w hw
      cases words with
      | nil => cases hw
      | cons next words => exact hwords w (List.mem_cons_of_mem _ hw)
    rw [List.flatten_cons] at hroom
    have hword : b.add width .fold word =
        { b with current := b.current ++ word, used := b.used + Text.cells word } := by
      rw [Breaking.add, if_pos (by omega)]
    have hnext := ih
      (b := { b with current := b.current ++ word, used := b.used + Text.cells word })
      hdone hrest (by dsimp only; omega)
    rw [List.foldl_cons, hword, hnext, List.append_assoc, List.flatten_cons]

end Breaking

/-! ### Printed texts -/

theorem mem_of_mem_breakLine {width : Nat} {o : Overflow} {cs l : List Char} {c : Char}
    (hl : l ∈ breakLine width o cs) (hc : c ∈ l) : c ∈ cs := by
  rw [← flatten_breakLine width o cs]
  exact List.mem_flatten.2 ⟨l, hl, hc⟩

theorem trimEnd_of_wordsOf_eq_nil {cs : List Char} (h : wordsOf cs = []) :
    Text.trimEnd cs = [] := by
  have hparts := List.flatten_splitBy staysInWord cs
  rw [wordsOf] at h
  split at h
  next hsplit =>
    rw [hsplit] at hparts
    rw [← hparts]
    rfl
  next word hsplit =>
    rw [hsplit, List.flatten_singleton] at hparts
    split at h
    next hblank =>
      rw [← hparts, Text.trimEnd, Text.dropEndWhile, List.reverse_eq_nil_iff,
        List.dropWhile_eq_nil_iff]
      simpa using hblank
    next => cases h
  next => split at h <;> cases h

theorem oneCell_of_mem_wordsOf {cs word : List Char} (hcells : OneCell cs)
    (hword : word ∈ wordsOf cs) : OneCell word := by
  intro c hc
  refine hcells c ?_
  rw [← flatten_wordsOf (List.ne_nil_of_mem hword)]
  exact List.mem_flatten_of_mem hword hc

/-- The lines have room for their characters, but for blanks at their ends. -/
theorem length_trimEnd_le_of_mem_breakLine {width : Nat} (hwidth : 0 < width) {cs l : List Char}
    (hcells : OneCell cs) (hl : l ∈ breakLine width .fold cs) :
    (Text.trimEnd l).length ≤ width := by
  rw [breakLine] at hl
  split at hl
  next hwords =>
    rw [List.mem_singleton.1 hl, trimEnd_of_wordsOf_eq_nil hwords]
    exact Nat.zero_le _
  next =>
    have hstart : Breaking.Fits width {} :=
      ⟨rfl, by simp [Breaking.lines, Text.trimEnd, Text.dropEndWhile]⟩
    exact (hstart.foldl_add hwidth fun _ => oneCell_of_mem_wordsOf hcells).lines l hl

theorem breakLine_of_cells_le {width : Nat} {cs : List Char} (h : Text.cells cs ≤ width) :
    breakLine width .fold cs = [cs] := by
  rw [breakLine]
  split
  next => rfl
  next hwords =>
    have hflatten := flatten_wordsOf hwords
    rw [Breaking.foldl_add_of_cells_le rfl
      (fun _ hword => (endsBlank_of_mem_wordsOf hword).getLast?_ne)
      (by simpa [hflatten] using h), hflatten, List.nil_append]

/-- Only blanks at the end of a line are cut away, where the rest has room. -/
theorem ink_cropEnd {width : Nat} {cs : List Char} (h : (Text.trimEnd cs).length ≤ width) :
    ink (cropEnd width cs) = ink cs ∧ (cropEnd width cs).length ≤ width := by
  obtain ⟨front, trailing, rfl, hfront, hcount, hblank⟩ := exists_trailing Text.isBlank cs
  rw [Text.trimEnd, hfront] at h
  have hkept : (front ++ trailing).length -
        min trailing.length ((front ++ trailing).length - width) =
      front.length + min trailing.length (width - front.length) := by
    rw [List.length_append]
    omega
  have hcrop : cropEnd width (front ++ trailing) =
      front ++ trailing.take (min trailing.length (width - front.length)) := by
    rw [cropEnd, hcount, hkept, List.take_length_add_append]
  rw [hcrop, ink_append, ink_append, ink_eq_nil hblank,
    ink_eq_nil fun c hc => hblank c (List.mem_of_mem_take hc), List.length_append, List.length_take]
  exact ⟨rfl, by omega⟩

theorem visible_sublist (cs : List Char) : (visible cs).Sublist cs := List.filter_sublist

/-- A text without line feeds and tabs is broken as it is seen. -/
theorem wrap_of_notMem {width : Nat} (hwidth : 0 < width) {cs : List Char} (hline : '\n' ∉ cs)
    (htab : '\t' ∉ cs) : wrap width cs =
      (breakLine width .fold (visible cs)).map fun l => truncate width .fold (cropEnd width l) := by
  have hrows : Text.rows (visible cs) = [visible cs] :=
    Text.splitOn_eq_singleton fun hmem => hline ((visible_sublist cs).subset hmem)
  have htabs : expandTabs (visible cs) = visible cs := by
    rw [expandTabs, Text.splitOn_eq_singleton fun hmem => htab ((visible_sublist cs).subset hmem),
      joinTabs]
  rw [wrap, if_neg hwidth.ne', hrows, List.flatMap_singleton, htabs]
  rfl

/-- No more characters are printed than are seen of a text. -/
theorem length_wrap_le {width : Nat} (hwidth : 0 < width) {cs : List Char} (hline : '\n' ∉ cs)
    (htab : '\t' ∉ cs) : ((wrap width cs).map List.length).sum ≤ (visible cs).length := by
  have hpart (l : List Char) : (truncate width .fold (cropEnd width l)).length ≤ l.length := by
    have hcrop : (cropEnd width l).length ≤ l.length := by
      rw [cropEnd, List.length_take]
      exact Nat.min_le_right _ _
    refine Nat.le_trans ?_ hcrop
    rw [truncate]
    split
    next => exact Nat.le_refl _
    next hwide => exact Text.length_fit_le (Nat.lt_of_not_le hwide)
  rw [wrap_of_notMem hwidth hline htab, List.map_map]
  calc (((breakLine width .fold (visible cs)).map
          (List.length ∘ fun l => truncate width .fold (cropEnd width l))).sum)
      ≤ ((breakLine width .fold (visible cs)).map List.length).sum :=
        List.sum_le_sum fun l _ => hpart l
    _ = (visible cs).length := by
      rw [← List.length_flatten, flatten_breakLine]

theorem visible_of_oneCell {cs : List Char} (hcells : OneCell cs) : visible cs = cs := by
  refine List.filter_eq_self.2 fun c hc => ?_
  have hhidden (d : Char) (hd : Text.cellsOf d = 0) : c ≠ d := Text.ne_of_cellsOf (hcells c hc) hd
  simp only [isHidden, Bool.not_eq_true', Bool.or_eq_false_iff, beq_eq_false_iff_ne]
  exact ⟨⟨⟨⟨hhidden _ (by decide +kernel), hhidden _ (by decide +kernel)⟩,
    hhidden _ (by decide +kernel)⟩, hhidden _ (by decide +kernel)⟩, hhidden _ (by decide +kernel)⟩

theorem notMem_of_oneCell {cs : List Char} (hcells : OneCell cs) : '\n' ∉ cs ∧ '\t' ∉ cs := by
  have hne (d : Char) (hd : Text.cellsOf d = 0) : d ∉ cs := fun hmem =>
    Text.ne_of_cellsOf (hcells d hmem) hd rfl
  exact ⟨hne '\n' (by decide +kernel), hne '\t' (by decide +kernel)⟩

/-- The lines of a text are only cut where blanks stand at their ends. -/
theorem wrap_of_oneCell {width : Nat} (hwidth : 0 < width) {cs : List Char} (hcells : OneCell cs) :
    wrap width cs = (breakLine width .fold cs).map (cropEnd width) := by
  obtain ⟨hline, htab⟩ := notMem_of_oneCell hcells
  rw [wrap_of_notMem hwidth hline htab, visible_of_oneCell hcells]
  refine List.map_congr_left fun l hl => ?_
  have hfits := (ink_cropEnd (length_trimEnd_le_of_mem_breakLine hwidth hcells hl)).2
  have hline : OneCell (cropEnd width l) := fun c hc =>
    hcells c (mem_of_mem_breakLine hl (List.mem_of_mem_take hc))
  rw [truncate, Text.cells_of_oneCell hline, if_pos hfits]

/-- No character that is seen is lost on a console. -/
theorem ink_literal {width : Nat} (hwidth : 0 < width) {s : String} (hcells : OneCell s.toList) :
    (literal width s).flatMap (fun l => ink l.toList) = ink s.toList := by
  have hcrop : (breakLine width .fold s.toList).flatMap (fun l => ink (cropEnd width l)) =
      (breakLine width .fold s.toList).flatMap ink :=
    List.flatMap_congr fun l hl =>
      (ink_cropEnd (length_trimEnd_le_of_mem_breakLine hwidth hcells hl)).1
  rw [literal, wrap_of_oneCell hwidth hcells, List.map_map, List.flatMap_map]
  simp only [Function.comp_apply, String.toList_ofList]
  rw [hcrop, List.flatMap_def]
  have hflatten := congrArg ink (flatten_breakLine width .fold s.toList)
  rwa [ink, List.filter_flatten] at hflatten

/-- Whether a text has room on one line of a console. -/
structure HasRoom (width : Nat) (s : String) : Prop where
  no_feed : '\n' ∉ s.toList
  no_tab : '\t' ∉ s.toList
  cells_le : Text.cells s.toList ≤ width

theorem hasRoom_iff {width : Nat} {s : String} : HasRoom width s ↔
    '\n' ∉ s.toList ∧ '\t' ∉ s.toList ∧ Text.cells s.toList ≤ width :=
  ⟨fun ⟨hfeed, htab, hcells⟩ => ⟨hfeed, htab, hcells⟩,
    fun ⟨hfeed, htab, hcells⟩ => ⟨hfeed, htab, hcells⟩⟩

instance (width : Nat) (s : String) : Decidable (HasRoom width s) :=
  decidable_of_iff' _ hasRoom_iff

/-- Whether no blanks at the end of a text are cut away. They are where the text has more characters
than the width, even if it takes no more cells. -/
def KeepsEnd (width : Nat) (s : String) : Prop :=
  s.length ≤ width ∨ s.toList.getLast?.any Text.isBlank = false

instance (width : Nat) (s : String) : Decidable (KeepsEnd width s) :=
  inferInstanceAs (Decidable (_ ∨ _))

theorem cropEnd_eq_self_iff {width : Nat} {s : String} :
    cropEnd width s.toList = s.toList ↔ KeepsEnd width s := by
  have hblanks : (s.toList.reverse.takeWhile Text.isBlank).length = 0 ↔
      s.toList.getLast?.any Text.isBlank = false := by
    rw [← List.head?_reverse]
    cases s.toList.reverse with
    | nil => simp
    | cons c cs => cases hc : Text.isBlank c <;> simp [hc]
  rw [cropEnd, List.take_eq_self_iff, KeepsEnd, ← hblanks, String.length_toList]
  omega

theorem wrap_of_hasRoom {width : Nat} (hwidth : 0 < width) {s : String} (h : HasRoom width s)
    (hvisible : visible s.toList = s.toList) :
    wrap width s.toList = [cropEnd width s.toList] := by
  have hcells : Text.cells (cropEnd width s.toList) ≤ width := by
    obtain ⟨cut, hcut⟩ : cropEnd width s.toList <+: s.toList := List.take_prefix ..
    have hle := Text.cells_le_append none (cropEnd width s.toList) cut
    rw [hcut] at hle
    exact hle.trans h.cells_le
  rw [wrap_of_notMem hwidth h.no_feed h.no_tab, hvisible, breakLine_of_cells_le h.cells_le,
    List.map_singleton, truncate, if_pos hcells]

/-- A text that has room on one line is printed as it is. -/
theorem literal_of_hasRoom {width : Nat} (hwidth : 0 < width) {s : String} (h : HasRoom width s)
    (hvisible : visible s.toList = s.toList) (hend : KeepsEnd width s) : literal width s = [s] := by
  rw [literal, wrap_of_hasRoom hwidth h hvisible, cropEnd_eq_self_iff.2 hend, List.map_singleton,
    String.ofList_toList]

theorem literal_eq_singleton {width : Nat} (hwidth : 0 < width) {s : String}
    (hcells : OneCell s.toList) (hlength : s.length ≤ width) : literal width s = [s] := by
  obtain ⟨hline, htab⟩ := notMem_of_oneCell hcells
  have hroom : HasRoom width s := by
    refine ⟨hline, htab, ?_⟩
    rwa [Text.cells_of_oneCell hcells, String.length_toList]
  exact literal_of_hasRoom hwidth hroom (visible_of_oneCell hcells) (.inl hlength)

def seen (ls : Lines) : List Char := ls.flatMap fun l => ink l.toList

theorem seen_flatMap_literal {width : Nat} (hwidth : 0 < width) {ls : List String}
    (h : ∀ l ∈ ls, OneCell l.toList) : seen (ls.flatMap (literal width)) = seen ls := by
  rw [seen, List.flatMap_assoc]
  exact List.flatMap_congr fun l hl => ink_literal hwidth (h l hl)

/-- Texts that have room are the lines that are printed. -/
theorem flatMap_literal_eq_self {width : Nat} (hwidth : 0 < width) {ls : List String}
    (h : ∀ l ∈ ls, OneCell l.toList) (hroom : ∀ l ∈ ls, l.length ≤ width) :
    ls.flatMap (literal width) = ls := by
  have hone := List.flatMap_congr fun l hl => literal_eq_singleton hwidth (h l hl) (hroom l hl)
  rw [hone, List.flatMap_singleton']

end Console

end RuleReview
