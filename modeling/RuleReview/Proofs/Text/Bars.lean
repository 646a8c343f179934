import RuleReview.Proofs.Text.Words

/-! Bars and backslashes. A bar is open unless an odd number of backslashes stands right before it;
the open bars cut a row of a table into its parts. A text in which each bar and each backslash is
marked by a backslash has no open bar, wherever it stands, and is read back. -/

namespace RuleReview.Text

variable {n m : Nat} {cs xs : List Char}

/-! ### Open bars -/

/-- How many backslashes stand right before what comes after a character, after `n` of them. -/
def slashesAfter (n : Nat) (c : Char) : Nat := if c = '\\' then n + 1 else 0

/-- How many bars are open in a text right after `n` backslashes. -/
def openBarsFrom (n : Nat) : List Char → Nat
  | [] => 0
  | c :: cs => (if c = '|' ∧ n % 2 = 0 then 1 else 0) + openBarsFrom (slashesAfter n c) cs

def openBars (cs : List Char) : Nat := openBarsFrom 0 cs

/-- The parts of a text right after `n` backslashes. -/
def partsFrom (n : Nat) : List Char → List (List Char)
  | [] => [[]]
  | c :: cs =>
    if c = '|' ∧ n % 2 = 0 then [] :: partsFrom (slashesAfter n c) cs
    else (partsFrom (slashesAfter n c) cs).modifyHead (c :: ·)

def parts (cs : List Char) : List (List Char) := partsFrom 0 cs

/-- Whether backslashes mark what comes after them depends on whether they are in pairs. -/
theorem openBarsFrom_congr (h : n % 2 = m % 2) (cs : List Char) :
    openBarsFrom n cs = openBarsFrom m cs := by
  induction cs generalizing n m with
  | nil => rfl
  | cons c cs ih =>
    have hafter : slashesAfter n c % 2 = slashesAfter m c % 2 := by
      rw [slashesAfter, slashesAfter]
      split <;> omega
    rw [openBarsFrom, openBarsFrom, h, ih hafter]

/-- A blank parts the bars before it from those after it. -/
theorem openBarsFrom_append_blank (n : Nat) (as bs : List Char) :
    openBarsFrom n (as ++ ' ' :: bs) = openBarsFrom n as + openBars bs := by
  induction as generalizing n with
  | nil => rfl
  | cons a as ih => rw [List.cons_append, openBarsFrom, openBarsFrom, ih, Nat.add_assoc]

theorem openBars_blank_cons (cs : List Char) : openBars (' ' :: cs) = openBars cs :=
  (openBarsFrom_append_blank 0 [] cs).trans (Nat.zero_add _)

theorem openBars_bar_cons (cs : List Char) : openBars ('|' :: cs) = openBars cs + 1 :=
  Nat.add_comm 1 _

theorem openBars_append_blank (as bs : List Char) :
    openBars (as ++ ' ' :: bs) = openBars as + openBars bs := openBarsFrom_append_blank 0 as bs

theorem openBarsFrom_of_notMem (h : '|' ∉ cs) (n : Nat) : openBarsFrom n cs = 0 := by
  induction cs generalizing n with
  | nil => rfl
  | cons c cs ih =>
    rw [List.mem_cons, not_or] at h
    rw [openBarsFrom, if_neg fun hbar => h.1 hbar.1.symm, ih h.2]

theorem openBarsFrom_append_of_notMem {bs : List Char} (h : '|' ∉ bs) (n : Nat) (as : List Char) :
    openBarsFrom n (as ++ bs) = openBarsFrom n as := by
  induction as generalizing n with
  | nil => exact openBarsFrom_of_notMem h n
  | cons a as ih => rw [List.cons_append, openBarsFrom, openBarsFrom, ih]

theorem partsFrom_append_blank {as : List Char} (h : openBarsFrom n as = 0) (bs : List Char) :
    partsFrom n (as ++ ' ' :: '|' :: bs) = (as ++ [' ']) :: parts bs := by
  induction as generalizing n with
  | nil => rfl
  | cons a as ih =>
    rw [openBarsFrom, Nat.add_eq_zero_iff] at h
    obtain ⟨hbar, hrest⟩ := h
    have hnone : ¬(a = '|' ∧ n % 2 = 0) := fun hopen => by simp [hopen] at hbar
    rw [List.cons_append, partsFrom, if_neg hnone, ih hrest]
    rfl

theorem parts_append_blank {as : List Char} (h : openBars as = 0) (bs : List Char) :
    parts (as ++ ' ' :: '|' :: bs) = (as ++ [' ']) :: parts bs := partsFrom_append_blank h bs

/-! ### Marks -/

def needsMark (c : Char) : Bool := c == '\\' || c == '|'

/-- A text with a backslash before each bar and each backslash. -/
def mark (cs : List Char) : List Char :=
  cs.flatMap fun c => if needsMark c then ['\\', c] else [c]

/-- A text without the backslashes that mark a bar or a backslash. -/
def unmark : List Char → List Char
  | '\\' :: '\\' :: cs => '\\' :: unmark cs
  | '\\' :: '|' :: cs => '|' :: unmark cs
  | c :: cs => c :: unmark cs
  | [] => []

theorem needsMark_eq_true {c : Char} : needsMark c = true ↔ c = '\\' ∨ c = '|' := by
  simp [needsMark]

theorem unmark_mark_append (xs rest : List Char) :
    unmark (mark xs ++ rest) = xs ++ unmark rest := by
  induction xs with
  | nil => rfl
  | cons x xs ih =>
    rw [mark, List.flatMap_cons, ← mark, List.append_assoc]
    split
    next h =>
      rcases needsMark_eq_true.1 h with rfl | rfl <;>
        simp only [List.cons_append, List.nil_append, unmark, ih]
    next h =>
      have hx : x ≠ '\\' := fun h' => h (needsMark_eq_true.2 (.inl h'))
      rw [List.singleton_append, unmark.eq_3 _ _ (by simp [hx]) (by simp [hx]), ih]
      rfl

theorem unmark_mark (xs : List Char) : unmark (mark xs) = xs := by
  have h := unmark_mark_append xs []
  rwa [List.append_nil, unmark, List.append_nil] at h

/-- No bar of a marked text is open, and its backslashes mark nothing after it. -/
theorem openBarsFrom_mark_append (h : n % 2 = 0) (xs rest : List Char) :
    openBarsFrom n (mark xs ++ rest) = openBars rest := by
  induction xs generalizing n with
  | nil => exact openBarsFrom_congr h rest
  | cons x xs ih =>
    rw [mark, List.flatMap_cons, ← mark, List.append_assoc]
    split
    next hmark =>
      have hodd : (n + 1) % 2 ≠ 0 := by omega
      rcases needsMark_eq_true.1 hmark with rfl | rfl
      · simpa [openBarsFrom, slashesAfter] using ih (n := n + 1 + 1) (by omega)
      · simpa [openBarsFrom, slashesAfter, hodd] using ih (n := 0) rfl
    next hmark =>
      have hx : ¬(x = '|' ∧ n % 2 = 0) := fun hbar => hmark (needsMark_eq_true.2 (.inr hbar.1))
      have hx' : x ≠ '\\' := fun h' => hmark (needsMark_eq_true.2 (.inl h'))
      rw [List.singleton_append, openBarsFrom, if_neg hx, slashesAfter, if_neg hx', ih rfl,
        Nat.zero_add]

theorem openBars_mark (xs : List Char) : openBars (mark xs) = 0 := by
  have h := openBarsFrom_mark_append (n := 0) rfl xs []
  rwa [List.append_nil] at h

theorem mark_append (as bs : List Char) : mark (as ++ bs) = mark as ++ mark bs :=
  List.flatMap_append

theorem mark_eq_self (h : ∀ c ∈ cs, needsMark c = false) : mark cs = cs := by
  induction cs with
  | nil => rfl
  | cons c cs ih =>
    obtain ⟨hc, hcs⟩ := List.forall_mem_cons.1 h
    rw [mark, List.flatMap_cons, ← mark, ih hcs, hc]
    rfl

theorem mem_mark {c : Char} (h : c ∈ mark cs) : c = '\\' ∨ c ∈ cs := by
  obtain ⟨d, hd, hc⟩ := List.mem_flatMap.1 h
  split at hc
  · rcases List.mem_cons.1 hc with rfl | hc
    · exact .inl rfl
    · exact .inr (List.mem_singleton.1 hc ▸ hd)
  · rw [List.mem_singleton.1 hc]
    exact .inr hd

/-- Marks are put between no text and its ends. -/
theorem IsTrimmed.mark (h : IsTrimmed cs) : IsTrimmed (mark cs) := by
  obtain ⟨⟨c, hc, hfirst⟩, d, hd, hlast⟩ := h
  constructor
  · obtain ⟨tail, rfl⟩ := List.head?_eq_some_iff.1 hc
    rw [Text.mark, List.flatMap_cons]
    split
    · exact ⟨'\\', rfl, by decide⟩
    · exact ⟨c, rfl, hfirst⟩
  · obtain ⟨front, rfl⟩ := List.getLast?_eq_some_iff.1 hd
    refine ⟨d, ?_, hlast⟩
    have hmark : Text.mark [d] = if needsMark d then ['\\', d] else [d] :=
      List.flatMap_singleton ..
    rw [mark_append, hmark, List.getLast?_append]
    split <;> rfl

/-- A text may be marked before or after the blanks at its ends are taken away. -/
theorem trim_mark (cs : List Char) : trim (mark cs) = mark (trim cs) := by
  have hblank (bs : List Char) (h : ∀ b ∈ bs, isBlank b = true) : mark bs = bs := by
    refine mark_eq_self fun b hb => ?_
    rw [← Bool.not_eq_true, needsMark_eq_true]
    rintro (rfl | rfl) <;> exact absurd (h _ hb) (by decide)
  obtain ⟨as, bs, has, hbs, hcs⟩ := exists_append_trim cs
  have hmark : mark cs = as ++ (mark (trim cs) ++ bs) := by
    conv_lhs => rw [hcs, mark_append, mark_append, hblank as has, hblank bs hbs]
  rw [hmark, trim_append_of_blank has hbs]
  rcases trim_eq_nil_or_isTrimmed cs with h | h
  · rw [h]
    rfl
  · exact h.mark.trim_eq

end RuleReview.Text
