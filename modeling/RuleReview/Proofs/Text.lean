import RuleReview.Text.Blank
import RuleReview.Text.Lines
import RuleReview.Text.Search
import RuleReview.Text.Utf8

/-! Texts that are taken apart: what stands before and after a front or a run, and the
lines of a text that was put together from lines. -/

namespace RuleReview.Text

variable {p : Char → Bool} {cs rest : List Char}

/-! ### Fronts and runs -/

theorem takeFront?_eq_some_iff {front : List Char} :
    takeFront? front cs = some rest ↔ cs = front ++ rest := by
  rw [takeFront?]
  constructor
  · intro h
    split at h
    next hfront =>
      obtain ⟨tail, rfl⟩ := List.isPrefixOf_iff_prefix.1 hfront
      simpa using h
    next => cases h
  · rintro rfl
    simp

@[simp] theorem takeFront?_append (front rest : List Char) :
    takeFront? front (front ++ rest) = some rest := takeFront?_eq_some_iff.2 rfl

theorem dropWhile_eq_self (h : ∀ c ∈ cs.head?, p c = false) : cs.dropWhile p = cs := by
  cases cs with
  | nil => rfl
  | cons c cs => simp [h c rfl]

theorem takeRun?_eq_some_iff {run : List Char} :
    takeRun? p cs = some (run, rest) ↔
      run ≠ [] ∧ (∀ c ∈ run, p c) ∧ (∀ c ∈ rest.head?, p c = false) ∧ cs = run ++ rest := by
  rw [takeRun?]
  constructor
  · intro h
    split at h
    next => cases h
    next hrun =>
      cases h
      refine ⟨hrun, List.all_eq_true.1 List.all_takeWhile, fun c hc => ?_,
        (List.takeWhile_append_dropWhile ..).symm⟩
      have := List.head?_dropWhile_not p cs
      rw [Option.mem_def.1 hc] at this
      simpa using this
  · rintro ⟨hne, hrun, hrest, rfl⟩
    have htake : (run ++ rest).takeWhile p = run := by
      rw [List.takeWhile_append_of_pos hrun]
      cases rest with
      | nil => simp
      | cons c rest => simp [hrest c rfl]
    have hdrop : (run ++ rest).dropWhile p = rest := by
      rw [List.dropWhile_append_of_pos hrun, dropWhile_eq_self hrest]
    rw [htake, hdrop]
    split
    next => exact absurd rfl hne
    next => rfl

theorem takeRun?_append {run : List Char} (hne : run ≠ []) (hrun : ∀ c ∈ run, p c)
    (hrest : ∀ c ∈ rest.head?, p c = false) : takeRun? p (run ++ rest) = some (run, rest) :=
  takeRun?_eq_some_iff.2 ⟨hne, hrun, hrest, rfl⟩

/-! ### Blanks at the ends -/

theorem trim_eq_self (hfirst : ∀ c ∈ cs.head?, isBlank c = false)
    (hlast : ∀ c ∈ cs.getLast?, isBlank c = false) : trim cs = cs := by
  rw [trim, trimStart, dropWhile_eq_self hfirst, trimEnd, dropEndWhile,
    dropWhile_eq_self (by simpa using hlast), List.reverse_reverse]

/-! ### Lines -/

/-- A text that stays one line when it is broken into lines. -/
def IsPlain (cs : List Char) : Prop := ∀ c ∈ cs, endsLine c = false

instance (cs : List Char) : Decidable (IsPlain cs) :=
  List.decidableBAll (fun c => endsLine c = false) cs

theorem isPlain_append {as bs : List Char} : IsPlain (as ++ bs) ↔ IsPlain as ∧ IsPlain bs :=
  List.forall_mem_append

theorem isPlain_cons {c : Char} : IsPlain (c :: cs) ↔ endsLine c = false ∧ IsPlain cs :=
  List.forall_mem_cons

theorem isPlain_of_isDigit (h : ∀ c ∈ cs, c.isDigit = true) : IsPlain cs := by
  intro c hc
  cases hends : endsLine c with
  | false => rfl
  | true =>
    simp only [endsLine, Bool.or_eq_true, beq_iff_eq] at hends
    rcases hends with ((((((((rfl | rfl) | rfl) | rfl) | rfl) | rfl) | rfl) | rfl) | rfl) | rfl <;>
      exact absurd (h _ hc) (by decide)

/-- Lines one after the other, each with a line feed. -/
def unlines (ls : List (List Char)) : List Char := ls.flatMap (· ++ ['\n'])

@[simp] theorem breakLines_nil : breakLines [] = [] := rfl

theorem breakLines_return_newline (cs : List Char) :
    breakLines ('\r' :: '\n' :: cs) = [] :: breakLines cs := rfl

theorem breakLines_cons {c : Char} (h : endsLine c = false) (cs : List Char) :
    breakLines (c :: cs) = consToFirst c (breakLines cs) := by
  rw [breakLines.eq_def]
  split
  next heq => cases heq
  next heq =>
    cases heq
    simp [endsLine] at h
  next heq =>
    cases heq
    rw [if_neg (by simp [h])]

theorem breakLines_cons_of_endsLine {c : Char} (h : endsLine c = true)
    (hcs : c = '\r' → cs.head? ≠ some '\n') : breakLines (c :: cs) = [] :: breakLines cs := by
  rw [breakLines.eq_def]
  split
  next heq => cases heq
  next heq =>
    cases heq
    exact absurd rfl (hcs rfl)
  next heq =>
    cases heq
    rw [if_pos h]

theorem breakLines_ne_nil (h : cs ≠ []) : breakLines cs ≠ [] := by
  fun_cases breakLines cs with
  | case1 => exact absurd rfl h
  | case2 cs => simp
  | case3 => simp
  | case4 c cs => cases breakLines cs <;> simp [consToFirst]

theorem consToFirst_eq (c : Char) (ls : List (List Char)) :
    consToFirst c ls = (c :: ls.headD []) :: ls.tail := by
  cases ls <;> rfl

theorem consToFirst_append {ls : List (List Char)} (h : ls ≠ []) (c : Char)
    (ms : List (List Char)) : consToFirst c (ls ++ ms) = consToFirst c ls ++ ms := by
  cases ls with
  | nil => exact absurd rfl h
  | cons l ls => rfl

/-- A line feed separates what is before it from what is after it. -/
theorem breakLines_append_newline (as bs : List Char) :
    breakLines (as ++ '\n' :: bs) = breakLines (as ++ ['\n']) ++ breakLines bs := by
  fun_induction breakLines as with
  | case1 => rfl
  | case2 cs ih =>
    simp only [List.cons_append, breakLines_return_newline, ih]
  | case3 c cs hne hc ih =>
    -- a carriage return at the very end joins the line feed
    by_cases hend : c = '\r' ∧ cs = []
    · obtain ⟨rfl, rfl⟩ := hend
      rfl
    have hhead (bs : List Char) (hcr : c = '\r') : (cs ++ '\n' :: bs).head? ≠ some '\n' := by
      cases cs with
      | nil => exact absurd ⟨hcr, rfl⟩ hend
      | cons d cs =>
        rintro ⟨⟩
        exact hne cs hcr rfl
    rw [List.cons_append, List.cons_append, breakLines_cons_of_endsLine hc (hhead bs),
      breakLines_cons_of_endsLine hc (hhead []), ih, List.cons_append]
  | case4 c cs hne hc ih =>
    have hc : endsLine c = false := by simpa using hc
    have hcs : breakLines (cs ++ ['\n']) ≠ [] := breakLines_ne_nil (by simp)
    rw [List.cons_append, List.cons_append, breakLines_cons hc, breakLines_cons hc, ih,
      consToFirst_append hcs]

/-- The first line of a text that is ended by a line feed. -/
def firstLine (cs : List Char) : List Char := (breakLines (cs ++ ['\n'])).headD []

/-- The lines after the first one, where other characters than the line feed end lines. -/
def laterLines (cs : List Char) : List (List Char) := (breakLines (cs ++ ['\n'])).tail

@[simp] theorem firstLine_nil : firstLine [] = [] := rfl

@[simp] theorem laterLines_nil : laterLines [] = [] := rfl

theorem breakLines_newline (cs : List Char) :
    breakLines (cs ++ ['\n']) = firstLine cs :: laterLines cs := by
  rw [firstLine, laterLines]
  cases h : breakLines (cs ++ ['\n']) with
  | nil => exact absurd h (breakLines_ne_nil (by simp))
  | cons l ls => rfl

theorem breakLines_append_of_isPlain {as : List Char} (h : IsPlain as) (cs : List Char) :
    breakLines (as ++ cs ++ ['\n']) = (as ++ firstLine cs) :: laterLines cs := by
  induction as with
  | nil => exact breakLines_newline cs
  | cons a as ih =>
    rw [isPlain_cons] at h
    rw [List.cons_append, List.cons_append, breakLines_cons h.1, ih h.2]
    rfl

theorem firstLine_append {as : List Char} (h : IsPlain as) (cs : List Char) :
    firstLine (as ++ cs) = as ++ firstLine cs := by
  rw [firstLine, breakLines_append_of_isPlain h]
  rfl

theorem laterLines_append {as : List Char} (h : IsPlain as) (cs : List Char) :
    laterLines (as ++ cs) = laterLines cs := by
  rw [laterLines, breakLines_append_of_isPlain h]
  rfl

theorem firstLine_of_isPlain (h : IsPlain cs) : firstLine cs = cs := by
  simpa using firstLine_append h []

theorem laterLines_of_isPlain (h : IsPlain cs) : laterLines cs = [] := by
  simpa using laterLines_append h []

/-- Lines that are put together break where the lines themselves do. -/
theorem breakLines_unlines_append (ls : List (List Char)) (cs : List Char) :
    breakLines (unlines ls ++ cs) =
      (ls.flatMap fun l => firstLine l :: laterLines l) ++ breakLines cs := by
  induction ls with
  | nil => rfl
  | cons l ls ih =>
    rw [unlines, List.flatMap_cons, List.append_assoc, List.append_assoc, List.singleton_append,
      breakLines_append_newline, breakLines_newline, List.flatMap_cons, List.append_assoc, ← ih]
    rfl

theorem breakLines_unlines (ls : List (List Char)) :
    breakLines (unlines ls) = ls.flatMap fun l => firstLine l :: laterLines l := by
  simpa using breakLines_unlines_append ls []

theorem breakLines_eq_singleton (h : IsPlain cs) (hne : cs ≠ []) : breakLines cs = [cs] := by
  induction cs with
  | nil => exact absurd rfl hne
  | cons c cs ih =>
    rw [isPlain_cons] at h
    rw [breakLines_cons h.1]
    cases cs with
    | nil => rfl
    | cons d cs => rw [ih h.2 (List.cons_ne_nil d cs)]; rfl

/-- The last line feed may be missing after a line that is plain and not empty. -/
theorem breakLines_dropLast_unlines (ls : List (List Char)) {l : List Char} (h : IsPlain l)
    (hne : l ≠ []) :
    breakLines (unlines (ls ++ [l])).dropLast = breakLines (unlines (ls ++ [l])) := by
  have hunlines : unlines (ls ++ [l]) = unlines ls ++ l ++ ['\n'] := by simp [unlines]
  rw [hunlines, List.dropLast_concat, List.append_assoc, breakLines_unlines_append,
    breakLines_unlines_append, breakLines_eq_singleton h hne, breakLines_newline,
    firstLine_of_isPlain h, laterLines_of_isPlain h]

theorem headD_breakLines_prefix (cs : List Char) : (breakLines cs).headD [] <+: cs := by
  fun_induction breakLines cs with
  | case1 => exact List.nil_prefix
  | case2 => exact List.nil_prefix
  | case3 => exact List.nil_prefix
  | case4 c cs hne hc ih =>
    rw [consToFirst_eq]
    exact List.cons_prefix_cons.2 ⟨rfl, ih⟩

theorem infix_of_mem_breakLines {l : List Char} (h : l ∈ breakLines cs) : l <:+: cs := by
  fun_induction breakLines cs with
  | case1 => exact absurd h List.not_mem_nil
  | case2 cs ih =>
    rcases List.mem_cons.1 h with rfl | h
    · exact List.nil_infix
    · exact List.infix_cons (List.infix_cons (ih h))
  | case3 c cs hne hc ih =>
    rcases List.mem_cons.1 h with rfl | h
    · exact List.nil_infix
    · exact List.infix_cons (ih h)
  | case4 c cs hne hc ih =>
    rw [consToFirst_eq] at h
    rcases List.mem_cons.1 h with rfl | h
    · exact (List.cons_prefix_cons.2 ⟨rfl, headD_breakLines_prefix cs⟩).isInfix
    · exact List.infix_cons (ih (List.mem_of_mem_tail h))

theorem isPlain_of_mem_breakLines {l : List Char} (h : l ∈ breakLines cs) : IsPlain l := by
  fun_induction breakLines cs generalizing l with
  | case1 => exact absurd h List.not_mem_nil
  | case2 cs ih =>
    rcases List.mem_cons.1 h with rfl | h
    · exact nofun
    · exact ih h
  | case3 c cs hne hc ih =>
    rcases List.mem_cons.1 h with rfl | h
    · exact nofun
    · exact ih h
  | case4 c cs hne hc ih =>
    rw [consToFirst_eq] at h
    rcases List.mem_cons.1 h with rfl | h
    · refine isPlain_cons.2 ⟨by simpa using hc, ?_⟩
      cases hrest : breakLines cs with
      | nil => exact nofun
      | cons first ls =>
        rw [hrest] at ih
        exact ih List.mem_cons_self
    · exact ih (List.mem_of_mem_tail h)

/-- The lines of a text that is ended by a line feed are parts of what is before it. -/
theorem infix_of_mem_breakLines_newline {l : List Char} (h : l ∈ breakLines (cs ++ ['\n'])) :
    l <:+: cs := by
  rcases List.infix_concat_iff.1 (infix_of_mem_breakLines h) with hend | hin
  · rcases List.suffix_concat_iff.1 hend with rfl | ⟨front, rfl, -⟩
    · exact List.nil_infix
    · exact absurd (isPlain_of_mem_breakLines h '\n' (by simp)) (by decide)
  · exact hin

/-! ### Rows -/

theorem splitOn_cons (sep c : Char) (cs : List Char) :
    splitOn sep (c :: cs) =
      if c = sep then [] :: splitOn sep cs else consToFirst c (splitOn sep cs) := rfl

theorem not_mem_of_mem_splitOn {sep : Char} {l : List Char} (h : l ∈ splitOn sep cs) : sep ∉ l := by
  induction cs generalizing l with
  | nil =>
    obtain rfl := List.mem_singleton.1 h
    exact List.not_mem_nil
  | cons c cs ih =>
    rw [splitOn_cons] at h
    split at h
    next =>
      rcases List.mem_cons.1 h with rfl | h
      · exact List.not_mem_nil
      · exact ih h
    next hc =>
      rw [consToFirst_eq] at h
      rcases List.mem_cons.1 h with rfl | h
      · rw [List.mem_cons, not_or]
        refine ⟨Ne.symm hc, ?_⟩
        cases hrest : splitOn sep cs with
        | nil => exact List.not_mem_nil
        | cons first ls =>
        rw [hrest] at ih
        exact ih List.mem_cons_self
      · exact ih (List.mem_of_mem_tail h)

theorem splitOn_ne_nil (sep : Char) (cs : List Char) : splitOn sep cs ≠ [] := by
  cases cs with
  | nil => exact List.cons_ne_nil _ _
  | cons c cs =>
    rw [splitOn_cons]
    split
    next => exact List.cons_ne_nil _ _
    next => cases splitOn sep cs <;> exact List.cons_ne_nil _ _

theorem headD_splitOn_prefix (sep : Char) (cs : List Char) :
    (splitOn sep cs).headD [] <+: cs := by
  induction cs with
  | nil => exact List.nil_prefix
  | cons c cs ih =>
    rw [splitOn_cons]
    split
    next => exact List.nil_prefix
    next =>
      rw [consToFirst_eq]
      exact List.cons_prefix_cons.2 ⟨rfl, ih⟩

theorem infix_of_mem_splitOn {sep : Char} {l : List Char} (h : l ∈ splitOn sep cs) :
    l <:+: cs := by
  induction cs with
  | nil =>
    obtain rfl := List.mem_singleton.1 h
    exact List.nil_infix
  | cons c cs ih =>
    rw [splitOn_cons] at h
    split at h
    next =>
      rcases List.mem_cons.1 h with rfl | h
      · exact List.nil_infix
      · exact List.infix_cons (ih h)
    next =>
      rw [consToFirst_eq] at h
      rcases List.mem_cons.1 h with rfl | h
      · exact (List.cons_prefix_cons.2 ⟨rfl, headD_splitOn_prefix sep cs⟩).isInfix
      · exact List.infix_cons (ih (List.mem_of_mem_tail h))

theorem mem_split {sep : Char} {part s : String} :
    part ∈ split sep s ↔ part.toList ∈ splitOn sep s.toList := by
  rw [split, List.mem_map]
  constructor
  · rintro ⟨l, hl, rfl⟩
    simpa using hl
  · exact fun h => ⟨part.toList, h, String.ofList_toList⟩

/-- A separator parts what is before it from what is after it. -/
theorem splitOn_append_sep (sep : Char) (as bs : List Char) :
    splitOn sep (as ++ sep :: bs) = splitOn sep as ++ splitOn sep bs := by
  induction as with
  | nil => rw [List.nil_append, splitOn_cons, if_pos rfl]; rfl
  | cons a as ih =>
    rw [List.cons_append, splitOn_cons, splitOn_cons, ih]
    by_cases ha : a = sep
    · rw [if_pos ha, if_pos ha, List.cons_append]
    · rw [if_neg ha, if_neg ha, consToFirst_append (splitOn_ne_nil sep as)]

theorem splitOn_eq_singleton {sep : Char} (h : sep ∉ cs) : splitOn sep cs = [cs] := by
  induction cs with
  | nil => rfl
  | cons c cs ih =>
    rw [List.mem_cons, not_or] at h
    rw [splitOn_cons, if_neg (Ne.symm h.1), ih h.2]
    rfl

theorem splitOn_append {sep : Char} {as : List Char} (h : sep ∉ as) (bs : List Char) :
    splitOn sep (as ++ sep :: bs) = as :: splitOn sep bs := by
  rw [splitOn_append_sep, splitOn_eq_singleton h]
  rfl

theorem rows_ne_nil (cs : List Char) : rows cs ≠ [] := splitOn_ne_nil '\n' cs

/-- There is a row more than there are line feeds. -/
theorem length_rows (cs : List Char) : (rows cs).length = cs.count '\n' + 1 := by
  induction cs with
  | nil => rfl
  | cons c cs ih =>
    rw [rows, splitOn_cons, ← rows, List.count_cons]
    split
    next hc => simp [hc, ih]
    next hc =>
      cases hrows : rows cs with
      | nil => exact absurd hrows (rows_ne_nil cs)
      | cons l ls =>
        rw [hrows] at ih
        simpa [consToFirst, hc] using ih

theorem length_rows_le (cs : List Char) : (rows cs).length ≤ cs.length + 1 := by
  rw [length_rows]
  exact Nat.succ_le_succ List.count_le_length

/-- Lines that are put together have the rows of the lines. -/
theorem rows_unlines_append (ls : List (List Char)) (cs : List Char) :
    rows (unlines ls ++ cs) = ls.flatMap rows ++ rows cs := by
  induction ls with
  | nil => rfl
  | cons l ls ih =>
    rw [unlines, List.flatMap_cons, List.append_assoc, List.append_assoc, List.singleton_append,
      rows, splitOn_append_sep, ← rows, ← rows, ← unlines, ih, List.flatMap_cons,
      List.append_assoc]

end RuleReview.Text

/-! ### Bytes below 128

Each of them is a character of its own. -/

namespace RuleReview.Text.Utf8

theorem toList_loop_eq (bytes : ByteArray) (i : Nat) (before : List UInt8) :
    ByteArray.toList.loop bytes i before = before.reverse ++ bytes.data.toList.drop i := by
  induction i, before using ByteArray.toList.loop.induct bytes with
  | case1 i before hless ih =>
    have hless' : i < bytes.data.toList.length := hless
    have hget : bytes.get! i = bytes.data.toList[i] := by
      change bytes.data[i]! = _
      rw [getElem!_pos bytes.data i hless, Array.getElem_toList]
    rw [ByteArray.toList.loop, if_pos hless, ih, List.drop_eq_getElem_cons hless', hget,
      List.reverse_cons, List.append_assoc]
    rfl
  | case2 i before hend =>
    have hend' : bytes.data.toList.length ≤ i := Nat.le_of_not_lt hend
    rw [ByteArray.toList.loop, if_neg hend, List.drop_eq_nil_of_le hend', List.append_nil]

theorem toList_eq (bytes : ByteArray) : bytes.toList = bytes.data.toList := toList_loop_eq bytes 0 []

/-- Bytes below 128 are characters of their own. -/
theorem decodeFrom_of_ascii (halves : Bool) {bs : List UInt8} (h : ∀ b ∈ bs, b < 0x80) :
    decodeFrom halves .start bs = bs.map fun b => some (.whole (Char.ofNat b.toNat)) := by
  induction bs with
  | nil => rfl
  | cons b bs ih =>
    obtain ⟨hb, hbs⟩ := List.forall_mem_cons.1 h
    have hless : b.toNat < 0x80 := UInt8.lt_iff_toNat_lt.1 hb
    rw [decodeFrom, step, first, if_pos hb, ih hbs, Letter.ofNat_of_lt (by omega)]
    rfl

theorem decode_of_ascii {bytes : ByteArray} (h : ∀ b ∈ bytes.data.toList, b < 0x80) :
    decode bytes = (bytes.data.toList.map fun b => Char.ofNat b.toNat).map some := by
  rw [decode, toList_eq, decodeFrom_of_ascii false h, List.map_map, List.map_map]
  rfl

theorem decode?_of_ascii {bytes : ByteArray} (h : ∀ b ∈ bytes.data.toList, b < 0x80) :
    decode? bytes = some (String.ofList (bytes.data.toList.map fun b => Char.ofNat b.toNat)) := by
  have hall (cs : List Char) : (cs.map some).mapM id = some cs := by
    induction cs with
    | nil => rfl
    | cons c cs ih => rw [List.map_cons, List.mapM_cons, ih]; rfl
  rw [decode?, decode_of_ascii h, hall]
  rfl

end RuleReview.Text.Utf8
