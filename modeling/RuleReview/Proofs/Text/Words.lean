import Mathlib.Data.List.Induction
import Mathlib.Data.List.TakeWhile
import RuleReview.Proofs.Text

/-! Words of a text and the blanks around it: a text that was put together with blanks is
taken apart into the words it was made of. -/

namespace RuleReview.Text

variable {w as bs cs rest : List Char} {b c : Char}

def IsWord (w : List Char) : Prop := w ≠ [] ∧ ∀ c ∈ w, isBlank c = false

instance (w : List Char) : Decidable (IsWord w) :=
  @instDecidableAnd _ _ _ (List.decidableBAll (isBlank · = false) w)

theorem IsWord.append (h : IsWord as) (h' : ∀ c ∈ bs, isBlank c = false) : IsWord (as ++ bs) :=
  ⟨by simp [h.1], List.forall_mem_append.2 ⟨h.2, h'⟩⟩

/-- Characters that end lines are blank. -/
theorem isBlank_of_endsLine (h : endsLine c = true) : isBlank c = true := by
  simp only [endsLine, Bool.or_eq_true, beq_iff_eq] at h
  rcases h with ((((((((rfl | rfl) | rfl) | rfl) | rfl) | rfl) | rfl) | rfl) | rfl) | rfl <;> decide

theorem IsWord.isPlain (h : IsWord w) : IsPlain w := by
  intro c hc
  have hblank := h.2 c hc
  cases hends : endsLine c with
  | false => rfl
  | true => simp [isBlank_of_endsLine hends] at hblank

/-! ### Words -/

@[simp] theorem words_nil : words [] = [] := rfl

theorem words_blank (h : isBlank b = true) (cs : List Char) : words (b :: cs) = words cs := by
  simp [words, h]

theorem words_cons (hc : isBlank c = false) {d : Char} (hd : isBlank d = false) (cs : List Char) :
    words (c :: d :: cs) = consToFirst c (words (d :: cs)) := by
  simp only [words, List.foldr_cons, hc, hd, Bool.false_eq_true, if_false]
  generalize List.foldr _ _ cs = state
  obtain ⟨_ | ⟨w, ws⟩, _ | _⟩ := state <;> rfl

theorem words_cons_of_head? (hc : isBlank c = false) (h : ∀ d ∈ cs.head?, isBlank d = true) :
    words (c :: cs) = [c] :: words cs := by
  cases cs with
  | nil => simp [words, hc]
  | cons d cs => simp [words, hc, h d rfl]

/-- A word ends where a blank follows, or nothing. -/
theorem words_append (h : IsWord w) (hrest : ∀ d ∈ rest.head?, isBlank d = true) :
    words (w ++ rest) = w :: words rest := by
  obtain ⟨hne, hw⟩ := h
  induction w with
  | nil => exact absurd rfl hne
  | cons c w ih =>
    rw [List.forall_mem_cons] at hw
    cases w with
    | nil => exact words_cons_of_head? hw.1 hrest
    | cons d w =>
      rw [List.cons_append, List.cons_append, words_cons hw.1 (hw.2 d List.mem_cons_self),
        ← List.cons_append, ih (List.cons_ne_nil d w) hw.2]
      rfl

theorem words_of_isWord (h : IsWord w) : words w = [w] := by
  have hwords : words (w ++ []) = w :: words [] := words_append h nofun
  simpa using hwords

/-- A text that starts with no blank is its first word and the words of what follows. -/
theorem exists_words_eq (h : ∃ c ∈ cs.head?, isBlank c = false) :
    ∃ w rest, IsWord w ∧ (∀ d ∈ rest.head?, isBlank d = true) ∧ cs = w ++ rest ∧
      words cs = w :: words rest := by
  obtain ⟨c, hc, hblank⟩ := h
  let w := cs.takeWhile (!isBlank ·)
  let rest := cs.dropWhile (!isBlank ·)
  have hcs : cs = w ++ rest := List.takeWhile_append_dropWhile.symm
  have hw : IsWord w := by
    refine ⟨?_, fun d hd => ?_⟩
    · obtain ⟨tail, rfl⟩ := List.head?_eq_some_iff.1 hc
      simp [w, hblank]
    · simpa using List.all_eq_true.1 List.all_takeWhile d hd
  have hrest : ∀ d ∈ rest.head?, isBlank d = true := by
    intro d hd
    have hnot := List.head?_dropWhile_not (!isBlank ·) cs
    rw [Option.mem_def.1 hd] at hnot
    simpa using hnot
  exact ⟨w, rest, hw, hrest, hcs, by rw [← words_append hw hrest, ← hcs]⟩

theorem words_ne_nil (hc : isBlank c = false) (cs : List Char) : words (c :: cs) ≠ [] := by
  have hhead : ∃ d ∈ (c :: cs).head?, isBlank d = false := ⟨c, rfl, hc⟩
  obtain ⟨w, rest, -, -, -, hwords⟩ := exists_words_eq hhead
  rw [hwords]
  exact List.cons_ne_nil _ _

/-- A blank parts the words before it from those after it. -/
theorem words_append_blank (hb : isBlank b = true) (as bs : List Char) :
    words (as ++ b :: bs) = words as ++ words bs := by
  induction as with
  | nil => exact words_blank hb bs
  | cons a as ih =>
    cases ha : isBlank a with
    | true => rw [List.cons_append, words_blank ha, words_blank ha, ih]
    | false =>
      cases as with
      | nil =>
        rw [List.singleton_append, words_cons_of_head? ha (by simpa using hb), words_blank hb,
          words_of_isWord ⟨List.cons_ne_nil a [], by simpa using ha⟩]
        rfl
      | cons d as =>
        cases hd : isBlank d with
        | true =>
          rw [words_cons_of_head? ha (by simpa using hd), List.cons_append,
            words_cons_of_head? ha (by simpa using hd), ih, List.cons_append]
        | false =>
          rw [List.cons_append, List.cons_append, words_cons ha hd, ← List.cons_append, ih,
            consToFirst_append (words_ne_nil hd as), words_cons ha hd]

/-! ### Blanks at the ends -/

/-- A text with no blank at either end, and not empty. -/
def IsTrimmed (cs : List Char) : Prop :=
  (∃ c ∈ cs.head?, isBlank c = false) ∧ ∃ c ∈ cs.getLast?, isBlank c = false

instance (cs : List Char) : Decidable (IsTrimmed cs) :=
  decidable_of_iff
    (cs.head?.any (!isBlank ·) = true ∧ cs.getLast?.any (!isBlank ·) = true)
    (by simp only [IsTrimmed, Option.any_eq_true, Option.mem_def, Bool.not_eq_true'])

theorem IsWord.isTrimmed (h : IsWord w) : IsTrimmed w :=
  ⟨⟨w.head h.1, List.head?_eq_some_head h.1, h.2 _ (List.head_mem h.1)⟩,
    w.getLast h.1, List.getLast?_eq_some_getLast h.1, h.2 _ (List.getLast_mem h.1)⟩

theorem IsTrimmed.trim_eq (h : IsTrimmed cs) : trim cs = cs := by
  obtain ⟨⟨c, hc, hfirst⟩, d, hd, hlast⟩ := h
  refine trim_eq_self (fun e he => ?_) fun e he => ?_
  · obtain rfl : c = e := Option.mem_unique hc he
    exact hfirst
  · obtain rfl : d = e := Option.mem_unique hd he
    exact hlast

/-- A text that starts with no blank keeps its first character when it is trimmed. -/
theorem exists_trim_cons (hc : isBlank c = false) (cs : List Char) :
    ∃ rest, trim (c :: cs) = c :: rest := by
  have hstart : trimStart (c :: cs) = c :: cs := dropWhile_eq_self (by simpa using hc)
  rw [trim, hstart, trimEnd, dropEndWhile, List.reverse_cons, List.dropWhile_append]
  split <;> simp [hc]

theorem exists_dropWhile_eq {p : Char → Bool} (h : ∃ c ∈ cs, p c = false) :
    ∃ c rest, cs.dropWhile p = c :: rest ∧ p c = false := by
  induction cs with
  | nil => simp at h
  | cons c cs ih =>
    cases hc : p c with
    | false => exact ⟨c, cs, by simp [hc], hc⟩
    | true => simpa [hc] using ih (by simpa [hc] using h)

/-- What is left of a text that is not blank has no blank at either end. -/
theorem isTrimmed_trim (h : ∃ c ∈ cs, isBlank c = false) : IsTrimmed (trim cs) := by
  obtain ⟨c, rest, hstart, hc⟩ := exists_dropWhile_eq h
  have htrim : trim cs = trim (c :: rest) := by
    have hfirst : (c :: rest).dropWhile isBlank = c :: rest := dropWhile_eq_self (by simpa using hc)
    simp only [trim, trimStart, hstart, hfirst]
  rw [htrim]
  constructor
  · obtain ⟨rest', hrest'⟩ := exists_trim_cons hc rest
    exact ⟨c, by rw [hrest']; rfl, hc⟩
  · have hmem : ∃ d ∈ (trimStart (c :: rest)).reverse, isBlank d = false :=
      ⟨c, by simp [trimStart, hc], hc⟩
    obtain ⟨d, rest', hend, hd⟩ := exists_dropWhile_eq hmem
    exact ⟨d, by simp [trim, trimEnd, dropEndWhile, hend], hd⟩

theorem IsTrimmed.append (has : IsTrimmed as) (hbs : IsTrimmed bs) (cs : List Char) :
    IsTrimmed (as ++ (cs ++ bs)) := by
  obtain ⟨⟨c, hc, hfirst⟩, -⟩ := has
  obtain ⟨-, d, hd, hlast⟩ := hbs
  refine ⟨⟨c, ?_, hfirst⟩, d, ?_, hlast⟩
  · simp [List.head?_append, Option.mem_def.1 hc]
  · simp [List.getLast?_append, Option.mem_def.1 hd]

theorem trim_eq_nil (h : ∀ c ∈ cs, isBlank c = true) : trim cs = [] := by
  rw [trim, trimStart, List.dropWhile_eq_nil_iff.2 h]
  rfl

theorem trim_blank_cons (hb : isBlank b = true) (cs : List Char) : trim (b :: cs) = trim cs := by
  simp [trim, trimStart, hb]

theorem trim_concat (hb : isBlank b = true) (cs : List Char) : trim (cs ++ [b]) = trim cs := by
  rw [trim, trim, trimStart, trimStart, List.dropWhile_append]
  split
  next hall =>
    have hnone : cs.dropWhile isBlank = [] := by simpa using hall
    rw [hnone]
    simp [hb, trimEnd, dropEndWhile]
  next => simp [trimEnd, dropEndWhile, hb]

theorem trim_append_of_blank (has : ∀ c ∈ as, isBlank c = true) (hbs : ∀ c ∈ bs, isBlank c = true) :
    trim (as ++ (cs ++ bs)) = trim cs := by
  have hend : trim (cs ++ bs) = trim cs := by
    induction bs using List.reverseRecOn with
    | nil => rw [List.append_nil]
    | append_singleton bs b ih =>
      obtain ⟨hbs, hb⟩ := List.forall_mem_append.1 hbs
      rw [← List.append_assoc, trim_concat (hb b List.mem_cons_self), ih hbs]
  induction as with
  | nil => exact hend
  | cons a as ih =>
    obtain ⟨ha, has⟩ := List.forall_mem_cons.1 has
    rw [List.cons_append, trim_blank_cons ha, ih has]

/-- Blanks stand around what is left of a text. -/
theorem exists_append_trim (cs : List Char) : ∃ as bs, (∀ c ∈ as, isBlank c = true) ∧
    (∀ c ∈ bs, isBlank c = true) ∧ cs = as ++ (trim cs ++ bs) := by
  refine ⟨cs.takeWhile isBlank, ((trimStart cs).reverse.takeWhile isBlank).reverse, ?_, ?_, ?_⟩
  · exact List.all_eq_true.1 List.all_takeWhile
  · intro c hc
    exact List.all_eq_true.1 List.all_takeWhile c (List.mem_reverse.1 hc)
  · rw [trim, trimEnd, dropEndWhile, ← List.reverse_append, List.takeWhile_append_dropWhile,
      List.reverse_reverse, trimStart, List.takeWhile_append_dropWhile]

theorem mem_of_mem_trim (h : c ∈ trim cs) : c ∈ cs := by
  obtain ⟨as, bs, -, -, hcs⟩ := exists_append_trim cs
  rw [hcs]
  exact List.mem_append_right as (List.mem_append_left bs h)

theorem IsTrimmed.trim_concat (h : IsTrimmed cs) (hb : isBlank b = true) :
    trim (cs ++ [b]) = cs := by
  rw [Text.trim_concat hb, h.trim_eq]

theorem trim_eq_nil_or_isTrimmed (cs : List Char) : trim cs = [] ∨ IsTrimmed (trim cs) := by
  by_cases h : ∃ c ∈ cs, isBlank c = false
  · exact .inr (isTrimmed_trim h)
  · exact .inl (trim_eq_nil (by simpa using h))

theorem trim_trim (cs : List Char) : trim (trim cs) = trim cs := by
  rcases trim_eq_nil_or_isTrimmed cs with h | h
  · rw [h]
    rfl
  · exact h.trim_eq

end RuleReview.Text
