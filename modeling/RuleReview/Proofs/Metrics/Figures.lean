import Mathlib.Data.List.TakeWhile
import RuleReview.Analyzer.Checked
import RuleReview.Proofs.Decimal.Nearest
import RuleReview.Proofs.Metrics.Blocks
import RuleReview.Proofs.Text
import RuleReview.Proofs.Text.Words

/-! The figures of a text are always there. A text has a line, so no ratio is one of nothing, and
no figure is greater than the size of the text, so no ratio is too large. Every line is counted
once, as one of code, a comment or a blank one, and a line that repeats another one adds to the
repeated ones whatever the order of the lines is. So percentages in messages are at most 100. -/

namespace RuleReview

/-- The most characters of a text: a place in a text is a number of 64 bits with a sign. -/
def Text.maxSize : Nat := 2 ^ 63 - 1

theorem Text.length_succ_le {code : List Char} (h : code.length ≤ maxSize) :
    code.length + 1 ≤ 2 ^ 64 := by
  rw [maxSize] at h
  omega

theorem total_le {ns : List Nat} {b : Nat} (h : ∀ n ∈ ns, n ≤ b) : total ns ≤ b * ns.length := by
  induction ns with
  | nil => exact Nat.zero_le _
  | cons n ns ih =>
    obtain ⟨hn, hns⟩ := List.forall_mem_cons.1 h
    have hrest := ih hns
    rw [total, List.length_cons, Nat.mul_succ]
    omega

/-! ### Numbers in texts -/

theorem notMem_toString {c : Char} (h : c.isDigit = false) (n : Nat) :
    c ∉ (toString n).toList := by
  intro hc
  have hdigit := Nat.isDigit_of_mem_toDigits (b := 10) (n := n) (by decide) (by decide)
    (by simpa using hc)
  rw [h] at hdigit
  cases hdigit

theorem notMem_around {c : Char} {before after : String} (hdigit : c.isDigit = false)
    (hsign : c ≠ '-') (hbefore : c ∉ before.toList) (hafter : c ∉ after.toList) (n : Int) :
    c ∉ (before ++ toString n ++ after).toList := by
  have hnumber : c ∉ (toString n).toList := by
    cases n with
    | ofNat n => exact notMem_toString hdigit n
    | negSucc n =>
      have hminus : toString (Int.negSucc n) = "-" ++ toString (n + 1) := rfl
      rw [hminus, String.toList_append]
      exact List.not_mem_append (by simpa using hsign) (notMem_toString hdigit (n + 1))
  rw [String.toList_append, String.toList_append]
  exact List.not_mem_append (List.not_mem_append hbefore hnumber) hafter

namespace Metrics

/-! ### Sizes -/

theorem le_of_mem_blockLengths {lines : List (List Char)} {n : Nat} (h : n ∈ blockLengths lines) :
    n ≤ lines.length := by
  rw [blockLengths_eq] at h
  obtain ⟨header, hheader, rfl⟩ := List.mem_map.1 h
  have hblock := (block_isPrefix leadingBlanks (indentation header.1) header.2).length_le
  have hrest := (suffix_of_mem_headers hheader).length_le
  rw [List.length_cons] at hrest
  omega

theorem le_of_mem_bracedLengths {code : List Char} {n : Nat}
    (h : n ∈ bracedLengths (.ofList code)) : n ≤ code.length + 1 := by
  obtain ⟨p, -, h⟩ := List.mem_flatMap.1 h
  obtain ⟨s, -, rfl⟩ := List.mem_map.1 h
  have hpart : ((Pattern.Line.ofList code).chars.extract s.1 s.2).toList.length ≤ code.length := by
    simp only [Pattern.Line.ofList, Array.length_toList, Array.size_extract, List.size_toArray]
    omega
  exact Nat.succ_le_succ (List.count_le_length.trans hpart)

theorem comments_le (code : List Char) :
    (Text.rows code).countP isComment ≤ 1 * (Text.rows code).length := by
  rw [Nat.one_mul]
  exact List.countP_le_length

theorem length_rows_ne_zero (code : List Char) : (Text.rows code).length ≠ 0 :=
  mt List.length_eq_zero_iff.1 (Text.rows_ne_nil code)

/-! ### Lines one by one -/

theorem isComment_of_isBlankLine {line : List Char} (h : isBlankLine line) :
    isComment line = false := by
  rw [isComment, Text.trim_eq_nil (List.all_eq_true.1 h)]
  decide

/-- A line is one of three: code, a comment, or blank. -/
theorem length_eq_countP (lines : List (List Char)) :
    lines.length = lines.countP isCode + lines.countP isComment + lines.countP isBlankLine := by
  induction lines with
  | nil => rfl
  | cons line rest ih =>
    rw [List.length_cons, List.countP_cons, List.countP_cons, List.countP_cons, ih]
    have hthree : (if isCode line then 1 else 0) + (if isComment line then 1 else 0) +
        (if isBlankLine line then 1 else 0) = 1 := by
      by_cases hblank : isBlankLine line
      · simp [isCode, hblank, isComment_of_isBlankLine hblank]
      · by_cases hcomment : isComment line <;> simp [isCode, hblank, hcomment]
    omega

/-! ### Repeated lines -/

/-- Of texts that were not seen before, the first of each form is not repeated. -/
theorem repeatsAfter_add_card (seen ls : List (List Char)) :
    repeatsAfter seen ls + (ls.toFinset \ seen.toFinset).card = ls.length := by
  induction ls generalizing seen with
  | nil => simp [repeatsAfter]
  | cons l ls ih =>
    rw [repeatsAfter, List.toFinset_cons, List.length_cons]
    by_cases hseen : l ∈ seen
    · have hold : l ∈ seen.toFinset := List.mem_toFinset.2 hseen
      rw [if_pos (List.contains_iff_mem.2 hseen), Finset.insert_sdiff_of_mem _ hold, ← ih seen]
      omega
    · have hfirst : insert l ls.toFinset \ seen.toFinset =
          insert l (ls.toFinset \ (l :: seen).toFinset) := by
        ext x
        by_cases hx : x = l
        · simp [hx, hseen]
        · simp [hx]
      have hnew : l ∉ ls.toFinset \ (l :: seen).toFinset := by simp
      rw [if_neg (mt List.contains_iff_mem.1 hseen), hfirst, Finset.card_insert_of_notMem hnew,
        ← ih (l :: seen)]
      omega

theorem duplicatesOf_add_card (lines : List (List Char)) :
    duplicatesOf lines + (comparable lines).toFinset.card = (comparable lines).length := by
  have hcount := repeatsAfter_add_card [] (comparable lines)
  rwa [List.toFinset_nil, Finset.sdiff_empty, ← duplicatesOf] at hcount

theorem length_comparable_le (lines : List (List Char)) :
    (comparable lines).length ≤ lines.length := by
  calc (comparable lines).length
      ≤ (lines.map normalized).length := List.length_filter_le _ _
    _ = lines.length := List.length_map _

theorem duplicatesOf_le (lines : List (List Char)) : duplicatesOf lines ≤ lines.length := by
  have hcount := duplicatesOf_add_card lines
  have hlength := length_comparable_le lines
  omega

theorem duplicatesOf_lt {lines : List (List Char)} (h : lines ≠ []) :
    duplicatesOf lines < lines.length := by
  have hcount := duplicatesOf_add_card lines
  have hlength := length_comparable_le lines
  have hpos := List.length_pos_of_ne_nil h
  cases hforms : comparable lines with
  | nil =>
    rw [hforms] at hcount
    simp only [List.toFinset_nil, Finset.card_empty, List.length_nil] at hcount
    omega
  | cons l ls =>
    have hcard : 0 < (comparable lines).toFinset.card :=
      Finset.card_pos.2 ⟨l, by simp [hforms]⟩
    omega

theorem duplicates_le (code : List Char) :
    duplicatesOf (Text.rows code) ≤ 1 * (Text.rows code).length := by
  rw [Nat.one_mul]
  exact duplicatesOf_le _

theorem duplicatesOf_perm {lines lines' : List (List Char)} (h : lines'.Perm lines) :
    duplicatesOf lines' = duplicatesOf lines := by
  have hforms : (comparable lines').Perm (comparable lines) := (h.map normalized).filter _
  have hcount := duplicatesOf_add_card lines
  have hcount' := duplicatesOf_add_card lines'
  rw [List.toFinset_eq_of_perm _ _ hforms, hforms.length_eq] at hcount'
  omega

/-! ### Ratios -/

section Ratio

variable {things others b : Nat}

theorem ratio_nonneg (things others : Nat) :
    0 ≤ Decimal.nearest ((things : Rat) / (others : Rat)) :=
  Decimal.nearest_nonneg (div_nonneg (Nat.cast_nonneg _) (Nat.cast_nonneg _))

theorem ratio_le (hothers : others ≠ 0) (h : things ≤ b * others) :
    Decimal.nearest ((things : Rat) / (others : Rat)) ≤ 2 * b := by
  have hpos : (0 : Rat) < others := by exact_mod_cast Nat.pos_of_ne_zero hothers
  have hquotient : (things : Rat) / others ≤ b := (div_le_iff₀ hpos).2 (by exact_mod_cast h)
  calc Decimal.nearest ((things : Rat) / others)
      ≤ 2 * ((things : Rat) / others) :=
        Decimal.nearest_le (div_nonneg (Nat.cast_nonneg _) hpos.le)
    _ ≤ 2 * b := mul_le_mul_of_nonneg_left hquotient zero_le_two

/-- Nothing near the size of a text is near the greatest finite number. -/
theorem size_lt_overflow {n : Nat} (h : n ≤ 2 ^ 64) : 2 * (n : Rat) < Decimal.overflow := by
  have hpow : 2 * n ≤ Nat.pow 2 65 := by
    change 2 * n ≤ 2 ^ 65
    omega
  rw [← Nat.cast_ofNat, ← Nat.cast_mul]
  exact (Nat.cast_le.2 hpow).trans_lt (Decimal.pow_lt_overflow (by decide))

theorem isTooLarge_ratio (hothers : others ≠ 0) (hb : b ≤ 2 ^ 64) (h : things ≤ b * others) :
    Decimal.isTooLarge (Decimal.nearest ((things : Rat) / (others : Rat))) = false :=
  Decimal.isTooLarge_eq_false (ratio_nonneg things others)
    ((ratio_le hothers h).trans_lt (size_lt_overflow hb))

theorem ratio?_eq_ok (hothers : others ≠ 0) (hb : b ≤ 2 ^ 64) (h : things ≤ b * others) :
    ratio? things others = .ok (Decimal.nearest ((things : Rat) / (others : Rat))) := by
  rw [ratio?, if_neg hothers]
  simp [isTooLarge_ratio hothers hb h]

end Ratio

/-! ### Figures of a text -/

theorem average?_eq_ok {lengths : List Nat} {b : Nat} (hb : b ≤ 2 ^ 64)
    (h : ∀ n ∈ lengths, n ≤ b) : average? lengths = .ok (average lengths) := by
  cases lengths with
  | nil => rfl
  | cons n ns =>
    have hratio := ratio?_eq_ok (List.cons_ne_nil n ns |> mt List.length_eq_zero_iff.1) hb
      (total_le h)
    rw [average?, average, hratio]
    rfl

theorem ofCode?_eq_ok {code : List Char} (h : code.length ≤ Text.maxSize) :
    ofCode? code = .ok (ofCode code) := by
  have hlengths : ∀ n ∈ bracedLengths (.ofList code) ++ blockLengths (Text.rows code),
      n ≤ code.length + 1 := fun n hn =>
    (List.mem_append.1 hn).elim le_of_mem_bracedLengths fun hn =>
      (le_of_mem_blockLengths hn).trans (Text.length_rows_le code)
  have hratio : commentRatio? (ofCode code).commentLines (ofCode code).totalLines =
      .ok (ofCode code).commentRatio := by
    rw [commentRatio?]
    refine (if_neg (length_rows_ne_zero code)).trans ?_
    exact ratio?_eq_ok (length_rows_ne_zero code) (by norm_num) (comments_le code)
  rw [ofCode?, average?_eq_ok (Text.length_succ_le h) hlengths, hratio]
  rfl

/-! ### Issues about figures -/

theorem hundredths_bounds {x : Rat} (hx : 0 ≤ x) :
    0 ≤ hundredths x ∧ hundredths x ≤ 400 * x + 1 := by
  have hscaled : 0 ≤ x * 100 := by positivity
  have hlow := Decimal.nearest_nonneg hscaled
  have hhigh := Decimal.nearest_le hscaled
  have hhalf : 0 ≤ Decimal.nearest (x * 100) + 1 / 2 := by linarith
  exact ⟨Decimal.nearest_nonneg hhalf, (Decimal.nearest_le hhalf).trans (by linarith)⟩

theorem isTooLarge_hundredths {x : Rat} (hx : 0 ≤ x) (hle : x ≤ 2) :
    Decimal.isTooLarge (hundredths x) = false := by
  obtain ⟨hlow, hhigh⟩ := hundredths_bounds hx
  have hsize : 2 * ((1000 : Nat) : Rat) < Decimal.overflow := size_lt_overflow (by norm_num)
  have hsmall : hundredths x ≤ 2 * ((1000 : Nat) : Rat) := by
    push_cast
    linarith
  exact Decimal.isTooLarge_eq_false hlow (hsmall.trans_lt hsize)

theorem isTooLarge_totalLines {code : List Char} (h : code.length ≤ Text.maxSize) :
    Decimal.isTooLarge (Decimal.nearest (ofCode code).figures.totalLines) = false := by
  have hrows : (Text.rows code).length ≤ 2 ^ 64 :=
    (Text.length_rows_le code).trans (Text.length_succ_le h)
  have hnonneg : (0 : Rat) ≤ (ofCode code).figures.totalLines :=
    Int.cast_nonneg (Int.natCast_nonneg _)
  have hle := (Decimal.nearest_le hnonneg).trans_lt (size_lt_overflow hrows)
  exact Decimal.isTooLarge_eq_false (Decimal.nearest_nonneg hnonneg) hle

theorem fault?_ofCode {code : List Char} (h : code.length ≤ Text.maxSize) (t : Config.Thresholds) :
    (ofCode code).figures.fault? t = none := by
  have hrows := length_rows_ne_zero code
  have hratio : duplicatedRatio (ofCode code).figures = Decimal.nearest
      ((duplicatesOf (Text.rows code) : Rat) / ((Text.rows code).length : Rat)) := rfl
  have hcommentRatio : (ofCode code).figures.commentRatio = Decimal.nearest
      (((Text.rows code).countP isComment : Rat) / ((Text.rows code).length : Rat)) := rfl
  have hzero : (ofCode code).figures.totalLines ≠ 0 := Int.natCast_ne_zero.2 hrows
  have hlarge := isTooLarge_ratio hrows (by norm_num) (duplicates_le code)
  have hpercent := isTooLarge_hundredths (ratio_nonneg _ _)
    ((ratio_le hrows (duplicates_le code)).trans_eq (by norm_num))
  have hcommented := isTooLarge_hundredths (ratio_nonneg _ _)
    ((ratio_le hrows (comments_le code)).trans_eq (by norm_num))
  rw [Figures.fault?, hratio, hcommentRatio, isTooLarge_totalLines h, hlarge, hpercent, hcommented]
  simp [hzero]

theorem issues?_ofCode {code : List Char} (h : code.length ≤ Text.maxSize) (t : Config.Thresholds) :
    (ofCode code).figures.issues? t = .ok (issues t (ofCode code)) := by
  rw [Figures.issues?, fault?_ofCode h]
  rfl

/-! ### Percentages -/

theorem ratio_le_one {things others : Nat} (h : things ≤ others) :
    Decimal.nearest ((things : Rat) / (others : Rat)) ≤ 1 := by
  have hquotient : (things : Rat) / others ≤ 2 ^ (0 : Int) := by
    rw [zpow_zero]
    exact div_le_one_of_le₀ (by exact_mod_cast h) (Nat.cast_nonneg others)
  have hrounded := Decimal.nearest_le_zpow (by positivity) (by norm_num) hquotient
  rwa [zpow_zero] at hrounded

/-- A hundred and the half after it are numbers, so rounding does not lead past them. -/
theorem percent_bounds {x : Rat} (hx : 0 ≤ x) (hle : x ≤ 1) : 0 ≤ percent x ∧ percent x ≤ 100 := by
  have hlow : 0 ≤ hundredths x := (hundredths_bounds hx).1
  have hscaled : Decimal.nearest (x * 100) ≤ (100 : Nat) * 2 ^ (0 : Int) :=
    Decimal.nearest_le_of_le (by positivity) (by norm_num) (by norm_num) (by norm_num; linarith)
  have hscaledLow : 0 ≤ Decimal.nearest (x * 100) := Decimal.nearest_nonneg (by positivity)
  have hhigh : hundredths x ≤ (201 : Nat) * 2 ^ (-1 : Int) := by
    refine Decimal.nearest_le_of_le (by positivity) (by norm_num) (by norm_num) ?_
    norm_num at hscaled ⊢
    linarith
  have hfloor : percent x = ⌊hundredths x⌋ := by
    rw [percent, Int.tdiv_eq_ediv_of_nonneg (Rat.num_nonneg.2 hlow), Rat.floor_def']
  rw [hfloor]
  refine ⟨Int.floor_nonneg.2 hlow, Int.lt_add_one_iff.1 (Int.floor_lt.2 (hhigh.trans_lt ?_))⟩
  norm_num

/-! ### Messages -/

/-- What stands around a figure that is no percentage in the messages of issues. -/
def plainWords : List (String × String) :=
  [("Cyclomatic complexity of ", " is extremely high"), ("Cyclomatic complexity of ", " is high"),
    ("Functions average ", " lines"), ("Maximum nesting depth of ", "")]

/-- An issue about figures tells a figure in plain words, or one of two percentages. -/
theorem message_of_mem_issues {t : Config.Thresholds} {m : Metrics} {i : Issue}
    (h : i ∈ issues t m) :
    (∃ (n : Int), ∃ words ∈ plainWords, i.message = words.1 ++ toString n ++ words.2) ∨
    i.message = s!"{percent (duplicatedRatio m.figures)}% code duplication detected" ∨
    i.message = s!"Only {percent m.figures.commentRatio}% of code is commented" := by
  have hmem (k : Fin 4) : plainWords[k] ∈ plainWords := List.getElem_mem _
  simp only [issues, Figures.issues, complexityIssues, lengthIssues, nestingIssues,
    duplicationIssues, commentIssues, List.mem_append, List.mem_ite_nil_right,
    List.mem_singleton] at h
  rcases h with (((h | ⟨-, rfl⟩) | ⟨-, rfl⟩) | ⟨-, rfl⟩) | ⟨-, rfl⟩
  · split at h
    next =>
      rw [List.mem_singleton.1 h]
      exact .inl ⟨m.figures.complexity, plainWords[0], hmem 0, rfl⟩
    next =>
      obtain ⟨-, h⟩ := List.mem_ite_nil_right.1 h
      rw [List.mem_singleton.1 h]
      exact .inl ⟨m.figures.complexity, plainWords[1], hmem 1, rfl⟩
  · exact .inl ⟨m.figures.averageFunctionLength, plainWords[2], hmem 2, rfl⟩
  · refine .inl ⟨m.figures.nestingDepth, plainWords[3], hmem 3, ?_⟩
    exact String.append_empty.symm
  · exact .inr (.inl rfl)
  · exact .inr (.inr rfl)

theorem percent_notMem_plain {words : String × String} (h : words ∈ plainWords) (n : Int) :
    '%' ∉ (words.1 ++ toString n ++ words.2).toList := by
  have hwords : ∀ words ∈ plainWords, '%' ∉ words.1.toList ∧ '%' ∉ words.2.toList := by
    decide +kernel
  exact notMem_around rfl (by decide) (hwords words h).1 (hwords words h).2 n

/-- The account of the lines of a text. Each line is code, a comment or blank, and there is one at
least. Of the lines that are long enough, stripped and in small letters, all but the first of each
form are repeated, so not all lines are. None of this depends on the order of the lines, and the
percentages in the messages about these figures are between none and a hundred. -/
theorem ofCode_accounts (code : List Char) :
    let forms := ((Text.rows code).map fun line => Text.lower (Text.trim line)).filter
      fun form => 10 < form.length
    (ofCode code).totalLines =
      (ofCode code).codeLines + (ofCode code).commentLines + (Text.rows code).countP isBlankLine ∧
    1 ≤ (ofCode code).totalLines ∧
    (ofCode code).duplicatedLines + forms.toFinset.card = forms.length ∧
    (ofCode code).duplicatedLines < (ofCode code).totalLines ∧
    (∀ code', (Text.rows code').Perm (Text.rows code) →
      (ofCode code').totalLines = (ofCode code).totalLines ∧
      (ofCode code').codeLines = (ofCode code).codeLines ∧
      (ofCode code').commentLines = (ofCode code).commentLines ∧
      (Text.rows code').countP isBlankLine = (Text.rows code).countP isBlankLine ∧
      (ofCode code').duplicatedLines = (ofCode code).duplicatedLines ∧
      (ofCode code').commentRatio = (ofCode code).commentRatio) ∧
    ∀ t, ∀ i ∈ issues t (ofCode code), '%' ∈ i.message.toList → ∃ n : Int, 0 ≤ n ∧ n ≤ 100 ∧
      (i.message = s!"{n}% code duplication detected" ∨
        i.message = s!"Only {n}% of code is commented") := by
  have hduplicated := percent_bounds (ratio_nonneg _ _)
    (ratio_le_one (duplicatesOf_le (Text.rows code)))
  have hcommented := percent_bounds (ratio_nonneg _ _)
    (ratio_le_one (List.countP_le_length (p := isComment) (l := Text.rows code)))
  refine ⟨length_eq_countP _, Nat.pos_of_ne_zero (length_rows_ne_zero code),
    duplicatesOf_add_card _, duplicatesOf_lt (Text.rows_ne_nil code), fun code' h => ?_,
    fun t i hi hsign => ?_⟩
  · have hcomments := h.countP_eq isComment
    refine ⟨h.length_eq, h.countP_eq _, hcomments, h.countP_eq _, duplicatesOf_perm h, ?_⟩
    simp only [ofCode, hcomments, h.length_eq]
  · rcases message_of_mem_issues hi with ⟨n, words, hwords, hplain⟩ | hmessage | hmessage
    · rw [hplain] at hsign
      exact absurd hsign (percent_notMem_plain hwords n)
    · exact ⟨_, hduplicated.1, hduplicated.2, .inl hmessage⟩
    · exact ⟨_, hcommented.1, hcommented.2, .inr hmessage⟩

end Metrics

end RuleReview
