import Mathlib.Algebra.Order.Ring.Int
import Mathlib.Data.List.DropRight
import Mathlib.Data.List.Forall2
import Mathlib.Data.List.Induction
import Mathlib.Data.Nat.Cast.Order.Ring
import Mathlib.Data.Set.Image
import Mathlib.Order.Bounds.Image
import RuleReview.Metrics

/-! Blocks of a text, by braces and by indentation. Proved: braces nest as deep as opening ones are
ahead of closing ones in the part of the text where they are so by most; a definition has the lines
of the block below its header, where the header is measured in columns and the lines below it in
blanks, and these lengths are those by columns alone exactly where the lines of each block have
more blanks in front than its header has columns. -/

namespace RuleReview.Metrics

/-! ### Braces -/

/-- How far the opening braces of a text are ahead of the closing ones. -/
def surplus (cs : List Char) : Int := (cs.count '\x7b' : Int) - cs.count '\x7d'

theorem surplus_nil : surplus [] = 0 := rfl

theorem surplus_append (as bs : List Char) : surplus (as ++ bs) = surplus as + surplus bs := by
  simp only [surplus, List.count_append]
  omega

/-- The surpluses of the ends of a text. -/
def endSurpluses (code : List Char) : Set Int := surplus '' {part | part <:+ code}

/-- The surpluses of the parts of a text. -/
def partSurpluses (code : List Char) : Set Int := surplus '' {part | part <:+: code}

theorem endSurpluses_concat (code : List Char) (c : Char) :
    endSurpluses (code ++ [c]) = insert 0 ((· + surplus [c]) '' endSurpluses code) := by
  ext n
  simp only [endSurpluses, Set.mem_image, Set.mem_ofPred_eq, Set.mem_insert_iff,
    List.suffix_concat_iff]
  constructor
  · rintro ⟨part, rfl | ⟨front, rfl, hfront⟩, rfl⟩
    · exact .inl surplus_nil
    · exact .inr ⟨surplus front, ⟨front, hfront, rfl⟩, (surplus_append front [c]).symm⟩
  · rintro (rfl | ⟨-, ⟨front, hfront, rfl⟩, rfl⟩)
    · exact ⟨[], .inl rfl, surplus_nil⟩
    · exact ⟨front ++ [c], .inr ⟨front, rfl, hfront⟩, surplus_append front [c]⟩

theorem partSurpluses_concat (code : List Char) (c : Char) :
    partSurpluses (code ++ [c]) = endSurpluses (code ++ [c]) ∪ partSurpluses code := by
  rw [partSurpluses, partSurpluses, endSurpluses, ← Set.image_union]
  congr 1
  ext part
  exact List.infix_concat_iff

/-- What the depth and the greatest depth are after a text: the greatest surplus of an end of it,
and that of any part of it. -/
structure Follows (code : List Char) (s : Nat × Nat) : Prop where
  depth : IsGreatest (endSurpluses code) s.1
  deepest : IsGreatest (partSurpluses code) s.2

theorem follows_nil : Follows [] (0, 0) := by
  have hends : endSurpluses [] = {0} := by simp [endSurpluses, surplus_nil]
  have hparts : partSurpluses [] = {0} := by simp [partSurpluses, surplus_nil]
  exact ⟨hends ▸ isGreatest_singleton, hparts ▸ isGreatest_singleton⟩

/-- A step adds the surplus of one character, but does not lead below zero. -/
theorem fst_braceStep (s : Nat × Nat) (c : Char) :
    ((braceStep s c).1 : Int) = max 0 (s.1 + surplus [c]) := by
  obtain ⟨depth, deepest⟩ := s
  by_cases hopen : c = '\x7b'
  · subst hopen
    have hone : surplus ['\x7b'] = 1 := rfl
    simp only [braceStep, if_true, hone]
    omega
  · by_cases hclose : c = '\x7d'
    · subst hclose
      have hone : surplus ['\x7d'] = -1 := rfl
      simp only [braceStep, if_neg hopen, if_true, hone]
      omega
    · have hzero : surplus [c] = 0 := by
        simp [surplus, hopen, hclose]
      simp only [braceStep, if_neg hopen, if_neg hclose, hzero]
      omega

theorem snd_braceStep {s : Nat × Nat} (h : s.1 ≤ s.2) (c : Char) :
    (braceStep s c).2 = max (braceStep s c).1 s.2 := by
  obtain ⟨depth, deepest⟩ := s
  simp only [braceStep]
  split
  next => exact Nat.max_comm _ _
  next =>
    split
    next => exact (Nat.max_eq_right (by dsimp only at h; omega)).symm
    next => exact (Nat.max_eq_right h).symm

theorem Follows.le {code : List Char} {s : Nat × Nat} (h : Follows code s) : s.1 ≤ s.2 := by
  obtain ⟨part, hpart, hsurplus⟩ := h.depth.1
  have hle := h.deepest.2 ⟨part, hpart.isInfix, hsurplus⟩
  omega

theorem Follows.step {code : List Char} {s : Nat × Nat} (h : Follows code s) (c : Char) :
    Follows (code ++ [c]) (braceStep s c) := by
  have hadd : Monotone fun n : Int => n + surplus [c] := fun m n hmn => Int.add_le_add_right hmn _
  have hdepth : IsGreatest (endSurpluses (code ++ [c])) ((braceStep s c).1 : Int) := by
    rw [endSurpluses_concat, fst_braceStep]
    exact (hadd.map_isGreatest h.depth).insert 0
  refine ⟨hdepth, ?_⟩
  rw [partSurpluses_concat, snd_braceStep h.le, Nat.cast_max]
  exact hdepth.union h.deepest

theorem follows_foldl (code : List Char) : Follows code (code.foldl braceStep (0, 0)) := by
  induction code using List.reverseRecOn with
  | nil => exact follows_nil
  | append_singleton code c ih =>
    rw [List.foldl_concat]
    exact ih.step c

def isBrace (c : Char) : Bool := c == '\x7b' || c == '\x7d'

/-- Nothing but braces is looked at. -/
theorem nestingDepthOf_filter (code : List Char) :
    nestingDepthOf (code.filter isBrace) = nestingDepthOf code := by
  have hskip : (fun s c => if isBrace c then braceStep s c else s) = braceStep := by
    funext s c
    by_cases hc : isBrace c
    · rw [if_pos hc]
    · have hother : c ≠ '\x7b' ∧ c ≠ '\x7d' := by simpa [isBrace] using hc
      rw [if_neg hc, braceStep, if_neg hother.1, if_neg hother.2]
  rw [nestingDepthOf, List.foldl_filter, hskip, nestingDepthOf]

theorem foldl_closing (n : Nat) : (List.replicate n '\x7d').foldl braceStep (0, 0) = (0, 0) := by
  induction n with
  | zero => rfl
  | succ n ih => rw [List.replicate_succ, List.foldl_cons]; exact ih

/-- Braces go as deep as opening ones are ahead of closing ones in some part of a text, and in no
part by more. So closing braces in front of a text change nothing, and neither do characters that
are no braces, wherever they are put in or taken out. -/
theorem nestingDepthOf_isGreatest (code : List Char) :
    IsGreatest (surplus '' {part | part <:+: code}) (nestingDepthOf code : Int) ∧
    (∀ n, nestingDepthOf (List.replicate n '\x7d' ++ code) = nestingDepthOf code) ∧
    ∀ code', code'.filter isBrace = code.filter isBrace →
      nestingDepthOf code' = nestingDepthOf code := by
  refine ⟨(follows_foldl code).deepest, fun n => ?_, fun code' h => ?_⟩
  · rw [nestingDepthOf, List.foldl_append, foldl_closing, nestingDepthOf]
  · rw [← nestingDepthOf_filter code', h, nestingDepthOf_filter]

/-! ### Margins

The blanks in front of a line are told in two ways: by their number, and by the columns that they
take. -/

/-- A text from a column on with every tab made spaces, up to the next multiple of eight. -/
def expandTabs (column : Nat) : List Char → List Char
  | [] => []
  | c :: cs =>
    if c = '\t' then
      List.replicate (8 - column % 8) ' ' ++ expandTabs (column + (8 - column % 8)) cs
    else c :: expandTabs (if c = '\n' ∨ c = '\r' then 0 else column + 1) cs

def margin (line : List Char) : List Char := expandTabs 0 (line.takeWhile Text.isBlank)

def indentation (line : List Char) : Nat := (margin line).length

/-- A line with the tabs in front of it expanded. -/
def expandMargin (line : List Char) : List Char := margin line ++ line.dropWhile Text.isBlank

section Tabs

variable {cs : List Char} {column : Nat}

theorem length_le_expandTabs (column : Nat) (cs : List Char) :
    cs.length ≤ (expandTabs column cs).length := by
  induction cs generalizing column with
  | nil => exact Nat.le_refl 0
  | cons c cs ih =>
    rw [expandTabs, List.length_cons]
    split
    next =>
      have hrest := ih (column + (8 - column % 8))
      rw [List.length_append, List.length_replicate]
      omega
    next => exact Nat.succ_le_succ (ih _)

theorem mem_expandTabs {d : Char} (h : d ∈ expandTabs column cs) : d = ' ' ∨ d ∈ cs ∧ d ≠ '\t' := by
  induction cs generalizing column with
  | nil => cases h
  | cons c cs ih =>
    rw [expandTabs] at h
    split at h
    next =>
      rcases List.mem_append.1 h with hspace | hrest
      · exact .inl (List.eq_of_mem_replicate hspace)
      · exact (ih hrest).imp_right fun ⟨hd, htab⟩ => ⟨List.mem_cons_of_mem c hd, htab⟩
    next hc =>
      rcases List.mem_cons.1 h with rfl | hrest
      · exact .inr ⟨List.mem_cons_self, hc⟩
      · exact (ih hrest).imp_right fun ⟨hd, htab⟩ => ⟨List.mem_cons_of_mem c hd, htab⟩

theorem mem_expandTabs_of_ne {d : Char} (hd : d ∈ cs) (htab : d ≠ '\t') :
    d ∈ expandTabs column cs := by
  induction cs generalizing column with
  | nil => cases hd
  | cons c cs ih =>
    rw [expandTabs]
    rcases List.mem_cons.1 hd with rfl | hd
    · rw [if_neg htab]
      exact List.mem_cons_self
    · split
      next => exact List.mem_append_right _ (ih hd)
      next => exact List.mem_cons_of_mem _ (ih hd)

theorem expandTabs_of_notMem (h : '\t' ∉ cs) : expandTabs column cs = cs := by
  induction cs generalizing column with
  | nil => rfl
  | cons c cs ih =>
    rw [List.mem_cons, not_or] at h
    rw [expandTabs, if_neg (Ne.symm h.1), ih h.2]

/-- Spaces and tabs stay what they are. -/
theorem forall_isIndent_expandTabs :
    (∀ d ∈ expandTabs column cs, isIndent d) ↔ ∀ d ∈ cs, isIndent d := by
  constructor
  · intro h d hd
    by_cases htab : d = '\t'
    · subst htab; rfl
    · exact h d (mem_expandTabs_of_ne hd htab)
  · intro h d hd
    rcases mem_expandTabs hd with rfl | ⟨hd, -⟩
    · rfl
    · exact h d hd

/-- Among spaces and tabs, the length of the expanded text is the column after it. -/
theorem columnAfter_eq (h : ∀ c ∈ cs, isIndent c) : columnAfter cs = (expandTabs 0 cs).length := by
  suffices hfrom : ∀ n, cs.foldl (fun n c => if c = '\t' then n + (8 - n % 8) else n + 1) n =
      n + (expandTabs n cs).length by
    rw [columnAfter, hfrom, Nat.zero_add]
  induction cs with
  | nil => exact fun n => rfl
  | cons c cs ih =>
    obtain ⟨hc, hcs⟩ := List.forall_mem_cons.1 h
    intro n
    rw [List.foldl_cons, ih hcs, expandTabs]
    by_cases htab : c = '\t'
    · rw [if_pos htab, if_pos htab, List.length_append, List.length_replicate, Nat.add_assoc]
    · have hline : ¬ (c = '\n' ∨ c = '\r') := by
        rintro (rfl | rfl) <;> cases hc
      rw [if_neg htab, if_neg htab, if_neg hline, List.length_cons]
      omega

end Tabs

variable {line : List Char}

theorem isBlank_of_isIndent {c : Char} (h : isIndent c) : Text.isBlank c := by
  simp only [isIndent, Bool.or_eq_true, beq_iff_eq] at h
  rcases h with rfl | rfl <;> decide

theorem isBlank_of_mem_margin {c : Char} (h : c ∈ margin line) : Text.isBlank c := by
  rcases mem_expandTabs h with rfl | ⟨hc, -⟩
  · decide
  · exact List.mem_takeWhile_imp hc

theorem dropWhile_expandMargin (line : List Char) :
    (expandMargin line).dropWhile Text.isBlank = line.dropWhile Text.isBlank := by
  rw [expandMargin, List.dropWhile_append_of_pos fun _ => isBlank_of_mem_margin]
  exact List.dropWhile_idempotent _ _

theorem takeWhile_expandMargin (line : List Char) :
    (expandMargin line).takeWhile Text.isBlank = margin line := by
  have hparts := List.takeWhile_append_dropWhile (p := Text.isBlank) (l := expandMargin line)
  rw [dropWhile_expandMargin, expandMargin] at hparts
  exact List.append_cancel_right hparts

theorem leadingBlanks_le_indentation (line : List Char) : leadingBlanks line ≤ indentation line :=
  length_le_expandTabs 0 _

theorem indentation_eq_leadingBlanks (h : '\t' ∉ line.takeWhile Text.isBlank) :
    indentation line = leadingBlanks line := by
  rw [indentation, margin, expandTabs_of_notMem h, leadingBlanks]

theorem leadingBlanks_expandMargin (line : List Char) :
    leadingBlanks (expandMargin line) = indentation line := by
  rw [leadingBlanks, takeWhile_expandMargin, indentation]

theorem indentation_expandMargin (line : List Char) :
    indentation (expandMargin line) = indentation line := by
  have htab : '\t' ∉ margin line := fun h => by
    rcases mem_expandTabs h with hspace | ⟨-, hne⟩
    · cases hspace
    · exact hne rfl
  rw [indentation_eq_leadingBlanks (by rwa [takeWhile_expandMargin]), leadingBlanks_expandMargin]

theorem isBlankLine_iff : isBlankLine line ↔ line.dropWhile Text.isBlank = [] := by
  rw [isBlankLine, List.all_eq_true, List.dropWhile_eq_nil_iff]

theorem isBlankLine_expandMargin (line : List Char) :
    isBlankLine (expandMargin line) = isBlankLine line := by
  rw [Bool.eq_iff_iff, isBlankLine_iff, isBlankLine_iff, dropWhile_expandMargin]

/-! ### Headers -/

def isHeader (line : List Char) : Bool := startsDefinition (line.dropWhile isIndent)

/-- The headers of definitions among lines, each with the lines after it. -/
def headers : List (List Char) → List (List Char × List (List Char))
  | [] => []
  | line :: rest => if isHeader line then (line, rest) :: headers rest else headers rest

/-- A header and the lines after it are an end of the lines. -/
theorem suffix_of_mem_headers {lines : List (List Char)} {h : List Char × List (List Char)}
    (hmem : h ∈ headers lines) : h.1 :: h.2 <:+ lines := by
  induction lines with
  | nil => cases hmem
  | cons line rest ih =>
    rw [headers] at hmem
    split at hmem
    next =>
      rcases List.mem_cons.1 hmem with rfl | hmem
      · exact List.suffix_rfl
      · exact (ih hmem).trans (List.suffix_cons line rest)
    next => exact (ih hmem).trans (List.suffix_cons line rest)

theorem isPrefixOf_of_pastWord {word : String} {cs rest : List Char}
    (h : pastWord word cs = some rest) : word.toList <+: cs := by
  rw [pastWord] at h
  split at h
  next hfront => exact List.isPrefixOf_iff_prefix.1 hfront
  next => cases h

/-- A definition starts with a letter. -/
theorem not_isBlank_of_startsDefinition {cs : List Char} (h : startsDefinition cs) :
    ∃ c rest, cs = c :: rest ∧ Text.isBlank c = false := by
  have hletter {first : Char} {more : List Char} (hblank : Text.isBlank first = false)
      (hfront : first :: more <+: cs) : ∃ c rest, cs = c :: rest ∧ Text.isBlank c = false := by
    obtain ⟨rest, rfl⟩ := hfront
    exact ⟨first, more ++ rest, rfl, hblank⟩
  rw [startsDefinition] at h
  cases hasync : pastWord "async" cs with
  | some rest => exact hletter (by decide) (isPrefixOf_of_pastWord hasync)
  | none =>
    rw [hasync, Option.getD_none] at h
    cases hdef : pastWord "def" cs with
    | some rest => exact hletter (by decide) (isPrefixOf_of_pastWord hdef)
    | none => rw [hdef] at h; cases h

theorem takeWhile_dropWhile_of_front {p : Char → Bool} {front : List Char} {c : Char}
    (rest : List Char) (hfront : ∀ d ∈ front, p d) (hc : p c = false) :
    (front ++ c :: rest).takeWhile p = front ∧ (front ++ c :: rest).dropWhile p = c :: rest := by
  rw [List.takeWhile_append_of_pos hfront, List.dropWhile_append_of_pos hfront]
  simp [hc]

/-- The blanks in front of a header are spaces and tabs. -/
theorem takeWhile_of_isHeader (h : isHeader line) :
    line.takeWhile Text.isBlank = line.takeWhile isIndent ∧
      line.dropWhile Text.isBlank = line.dropWhile isIndent := by
  obtain ⟨c, rest, hrest, hc⟩ := not_isBlank_of_startsDefinition h
  have hparts := takeWhile_dropWhile_of_front rest
    (fun d hd => isBlank_of_isIndent (List.mem_takeWhile_imp (l := line) hd)) hc
  rwa [← hrest, List.takeWhile_append_dropWhile] at hparts

theorem isHeader_iff : isHeader line ↔
    (∀ c ∈ line.takeWhile Text.isBlank, isIndent c) ∧
      startsDefinition (line.dropWhile Text.isBlank) := by
  constructor
  · intro h
    obtain ⟨htake, hdrop⟩ := takeWhile_of_isHeader h
    rw [htake, hdrop]
    exact ⟨fun d => List.mem_takeWhile_imp, h⟩
  · rintro ⟨hindent, h⟩
    obtain ⟨c, rest, hrest, hc⟩ := not_isBlank_of_startsDefinition h
    have hc : isIndent c = false := by
      rw [Bool.eq_false_iff] at hc ⊢
      exact mt isBlank_of_isIndent hc
    obtain ⟨-, hdrop⟩ := takeWhile_dropWhile_of_front rest hindent hc
    rw [← hrest, List.takeWhile_append_dropWhile] at hdrop
    rw [isHeader, hdrop]
    exact h

theorem isHeader_expandMargin (line : List Char) : isHeader (expandMargin line) = isHeader line := by
  rw [Bool.eq_iff_iff, isHeader_iff, isHeader_iff, takeWhile_expandMargin, dropWhile_expandMargin,
    margin, forall_isIndent_expandTabs]

theorem headerIndent?_eq (line : List Char) :
    headerIndent? line = if isHeader line then some (indentation line) else none := by
  rw [headerIndent?, ← isHeader]
  by_cases h : isHeader line
  · have hindent := (isHeader_iff.1 h).1
    rw [if_pos h, if_pos h, ← (takeWhile_of_isHeader h).1, columnAfter_eq hindent, indentation,
      margin]
  · rw [if_neg h, if_neg h]

theorem headers_map_expandMargin (lines : List (List Char)) :
    headers (lines.map expandMargin) =
      (headers lines).map fun h => (expandMargin h.1, h.2.map expandMargin) := by
  induction lines with
  | nil => rfl
  | cons line rest ih =>
    rw [List.map_cons, headers, headers, isHeader_expandMargin, ih]
    by_cases h : isHeader line
    · rw [if_pos h, if_pos h, List.map_cons]
    · rw [if_neg h, if_neg h]

/-! ### Blocks by indentation -/

/-- The block of a header among the lines after it, where `depth` tells how deep a line is: the
lines up to the first one that is not blank and not deeper than `limit`, without blank lines at
the end. -/
def block (depth : List Char → Nat) (limit : Nat) (rest : List (List Char)) : List (List Char) :=
  (rest.takeWhile fun line => isBlankLine line || limit < depth line).rdropWhile isBlankLine

/-- The lengths of definitions with their headers, where `depth` tells how deep a line is. -/
def spans (depth : List Char → Nat) (lines : List (List Char)) : List Nat :=
  (headers lines).map fun h => (block depth (indentation h.1) h.2).length + 1

theorem rdropWhile_cons {α : Type} (p : α → Bool) (x : α) (xs : List α) :
    (x :: xs).rdropWhile p =
      if p x ∧ xs.rdropWhile p = [] then [] else x :: xs.rdropWhile p := by
  simp only [List.rdropWhile, List.reverse_cons, List.dropWhile_append, List.reverse_eq_nil_iff,
    List.isEmpty_iff]
  by_cases hxs : xs.reverse.dropWhile p = []
  · by_cases hx : p x <;> simp [hxs, hx]
  · simp [hxs]

section Block

variable {depth deeper : List Char → Nat} {limit : Nat} {rest : List (List Char)}

theorem block_blank (h : isBlankLine line) :
    block depth limit (line :: rest) =
      if block depth limit rest = [] then [] else line :: block depth limit rest := by
  simp [block, h, rdropWhile_cons]

theorem block_deep (h : isBlankLine line = false) (hdepth : limit < depth line) :
    block depth limit (line :: rest) = line :: block depth limit rest := by
  simp [block, h, hdepth, rdropWhile_cons]

theorem block_shallow (h : isBlankLine line = false) (hdepth : depth line ≤ limit) :
    block depth limit (line :: rest) = [] := by
  simp [block, h, hdepth]

/-- The reach of a header is the length of its block, lines being as deep as they have blanks in
front. -/
theorem blockReach_eq (limit passed last : Nat) (rest : List (List Char)) :
    blockReach limit passed last rest =
      if block leadingBlanks limit rest = [] then last
      else passed + (block leadingBlanks limit rest).length := by
  induction rest generalizing passed last with
  | nil => rfl
  | cons line rest ih =>
    rw [blockReach]
    by_cases hblank : isBlankLine line
    · rw [if_pos hblank, ih, block_blank hblank]
      split
      next => rfl
      next =>
        rw [if_neg (List.cons_ne_nil _ _), List.length_cons]
        omega
    · rw [Bool.not_eq_true] at hblank
      rw [hblank, if_neg Bool.false_ne_true]
      by_cases hdepth : leadingBlanks line ≤ limit
      · rw [if_pos hdepth, block_shallow hblank hdepth, if_pos rfl]
      · rw [if_neg hdepth, ih, block_deep hblank (Nat.lt_of_not_le hdepth),
          if_neg (List.cons_ne_nil _ _), List.length_cons]
        split
        next hnil => rw [hnil, List.length_nil]
        next => omega

theorem blockLengths_eq (lines : List (List Char)) :
    blockLengths lines = spans leadingBlanks lines := by
  induction lines with
  | nil => rfl
  | cons line rest ih =>
    rw [blockLengths, headerIndent?_eq, spans, headers]
    by_cases h : isHeader line
    · have hreach := blockReach_eq (indentation line) 0 0 rest
      rw [if_pos h, if_pos h, List.map_cons, ← spans, ← ih]
      dsimp only
      rw [hreach]
      split
      next hnil => rw [hnil, List.length_nil]
      next => rw [Nat.zero_add]
    · rw [if_neg h, if_neg h, ← spans, ← ih]

theorem block_isPrefix (depth : List Char → Nat) (limit : Nat) (rest : List (List Char)) :
    block depth limit rest <+: rest :=
  (List.rdropWhile_prefix _ _).trans (List.takeWhile_prefix _)

theorem deep_of_mem_block (h : line ∈ block depth limit rest) (hblank : isBlankLine line = false) :
    limit < depth line := by
  have hwithin := List.mem_takeWhile_imp ((List.rdropWhile_prefix _ _).subset h)
  simpa [hblank] using hwithin

/-- Where lines are taken for deeper, a block reaches as far or further. -/
theorem block_isPrefix_block (hle : ∀ line, depth line ≤ deeper line) (limit : Nat)
    (rest : List (List Char)) : block depth limit rest <+: block deeper limit rest := by
  induction rest with
  | nil => exact List.prefix_rfl
  | cons line rest ih =>
    by_cases hblank : isBlankLine line
    · rw [block_blank hblank, block_blank hblank]
      by_cases hnil : block depth limit rest = []
      · rw [if_pos hnil]
        exact List.nil_prefix
      · have hnil' : block deeper limit rest ≠ [] := fun h => hnil (List.prefix_nil.1 (h ▸ ih))
        rw [if_neg hnil, if_neg hnil']
        exact (List.prefix_cons_inj line).2 ih
    · rw [Bool.not_eq_true] at hblank
      by_cases hdepth : limit < depth line
      · rw [block_deep hblank hdepth, block_deep hblank (hdepth.trans_le (hle line))]
        exact (List.prefix_cons_inj line).2 ih
      · rw [block_shallow hblank (Nat.le_of_not_lt hdepth)]
        exact List.nil_prefix

/-- It reaches no further exactly where its lines are deep by the other measure, too. -/
theorem block_eq_iff (hle : ∀ line, depth line ≤ deeper line) :
    block depth limit rest = block deeper limit rest ↔
      ∀ line ∈ block deeper limit rest, isBlankLine line = false → limit < depth line := by
  constructor
  · intro h line hline
    rw [← h] at hline
    exact deep_of_mem_block hline
  · intro h
    induction rest with
    | nil => rfl
    | cons line rest ih =>
      by_cases hblank : isBlankLine line
      · rw [block_blank hblank] at h ⊢
        rw [block_blank hblank]
        by_cases hnil : block deeper limit rest = []
        · have hnil' : block depth limit rest = [] :=
            List.prefix_nil.1 (hnil ▸ block_isPrefix_block hle limit rest)
          rw [if_pos hnil, if_pos hnil']
        · rw [if_neg hnil] at h
          rw [ih (List.forall_mem_cons.1 h).2]
      · rw [Bool.not_eq_true] at hblank
        by_cases hdeeper : limit < deeper line
        · rw [block_deep hblank hdeeper] at h ⊢
          obtain ⟨hline, hrest⟩ := List.forall_mem_cons.1 h
          rw [block_deep hblank (hline hblank), ih hrest]
        · have hshallow := Nat.le_of_not_lt hdeeper
          rw [block_shallow hblank hshallow, block_shallow hblank ((hle line).trans hshallow)]

theorem length_block_eq_iff (hle : ∀ line, depth line ≤ deeper line) :
    (block depth limit rest).length = (block deeper limit rest).length ↔
      ∀ line ∈ block deeper limit rest, isBlankLine line = false → limit < depth line := by
  rw [← block_eq_iff hle]
  exact ⟨(block_isPrefix_block hle limit rest).eq_of_length, congrArg List.length⟩

theorem block_map {f : List Char → List Char}
    (hblank : ∀ line, isBlankLine (f line) = isBlankLine line)
    (hdepth : ∀ line, depth (f line) = deeper line) (limit : Nat) (rest : List (List Char)) :
    block depth limit (rest.map f) = (block deeper limit rest).map f := by
  have hdrop (ls : List (List Char)) :
      (ls.map f).rdropWhile isBlankLine = (ls.rdropWhile isBlankLine).map f := by
    simp only [List.rdropWhile, ← List.map_reverse, List.dropWhile_map, Function.comp_def, hblank]
  simp only [block, List.takeWhile_map, Function.comp_def, hblank, hdepth, hdrop]

end Block

theorem spans_map_expandMargin (lines : List (List Char)) :
    spans leadingBlanks (lines.map expandMargin) = spans indentation lines := by
  simp only [spans, headers_map_expandMargin, List.map_map, Function.comp_def,
    indentation_expandMargin, List.length_map,
    block_map isBlankLine_expandMargin leadingBlanks_expandMargin]

theorem spans_le (lines : List (List Char)) :
    List.Forall₂ (· ≤ ·) (spans leadingBlanks lines) (spans indentation lines) := by
  rw [spans, spans, List.forall₂_map_left_iff, List.forall₂_map_right_iff, List.forall₂_same]
  exact fun h _ => Nat.succ_le_succ (block_isPrefix_block leadingBlanks_le_indentation _ h.2).length_le

theorem spans_eq_iff (lines : List (List Char)) :
    spans leadingBlanks lines = spans indentation lines ↔
      ∀ h ∈ headers lines, ∀ line ∈ block indentation (indentation h.1) h.2,
        isBlankLine line = false → indentation h.1 < leadingBlanks line := by
  rw [spans, spans, List.map_inj_left]
  refine forall₂_congr fun h _ => ?_
  rw [Nat.add_right_cancel_iff, length_block_eq_iff leadingBlanks_le_indentation]

/-- Without tabs in front of lines there is only one way to tell how deep they are. -/
theorem spans_eq_of_notMem {lines : List (List Char)}
    (htab : ∀ line ∈ lines, '\t' ∉ line.takeWhile Text.isBlank) :
    spans leadingBlanks lines = spans indentation lines := by
  rw [spans_eq_iff]
  intro h hh line hline hblank
  have hmem : line ∈ lines :=
    (suffix_of_mem_headers hh).subset (List.mem_cons_of_mem _ ((block_isPrefix _ _ _).subset hline))
  rw [← indentation_eq_leadingBlanks (htab line hmem)]
  exact deep_of_mem_block hline hblank

/-- A definition is as long as its block is, header included: for each header in order the block
ends before the first line that is not blank and has not more blanks in front than the column in
which the header starts. Columns are not less than blanks, so a block that goes by columns reaches
as far or further, and that is how long definitions are once tabs are expanded. The two lengths
are the same exactly where each line in the block of a header by columns, if not blank, has more
blanks in front than the header has columns, as lines without tabs have. -/
theorem blockLengths_eq_spans_iff (lines : List (List Char)) :
    blockLengths lines = spans leadingBlanks lines ∧
    List.Forall₂ (· ≤ ·) (blockLengths lines) (spans indentation lines) ∧
    blockLengths (lines.map expandMargin) = spans indentation lines ∧
    (blockLengths lines = spans indentation lines ↔
      ∀ h ∈ headers lines, ∀ line ∈ block indentation (indentation h.1) h.2,
        isBlankLine line = false → indentation h.1 < leadingBlanks line) ∧
    ((∀ line ∈ lines, '\t' ∉ line.takeWhile Text.isBlank) →
      blockLengths lines = spans indentation lines) := by
  rw [blockLengths_eq, blockLengths_eq, spans_map_expandMargin]
  exact ⟨rfl, spans_le lines, rfl, spans_eq_iff lines, spans_eq_of_notMem⟩

/-- A class with a definition, indented by tabs. -/
def tabbedLines : List (List Char) := Text.rows "class A:\n\tdef f():\n\t\treturn 1\n".toList

/-- The body has two blanks in front and stands in column sixteen, and its header in column
eight: the definition has one line, and two once tabs are expanded. -/
theorem blockLengths_tabbed :
    blockLengths tabbedLines = [1] ∧ spans indentation tabbedLines = [2] ∧
      blockLengths (tabbedLines.map expandMargin) = [2] := by
  decide +kernel

end RuleReview.Metrics
