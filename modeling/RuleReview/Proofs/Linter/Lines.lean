import Mathlib.Data.List.Infix
import RuleReview.Proofs.Diff.Header
import RuleReview.Proofs.Linter.Run
import RuleReview.Proofs.Text.Case

/-! Findings that are printed on lines: the file, the place in it, a code and a text. What looks
like a place first is the place, unless the name of the file has such a thing in it; hence all
findings are read back, whatever lines without a place stand between them. -/

namespace RuleReview.Linter.Flake8

open Diff (IsNumber takeRun?_isDecimal)
open Text (isBlank isDecimal IsPlain IsTrimmed)

variable {cs t rest line column : List Char} {b c : Char}

/-! ### Characters -/

theorem isDecimal_blankRanges :
    ∀ range ∈ Text.blankRanges, ∀ k < range.2 + 1 - range.1,
      isDecimal (Char.ofNat (range.1 + k)) = false := by
  decide +kernel

theorem isBlank_of_isDecimal (h : isDecimal c = true) : isBlank c = false := by
  by_contra hblank
  obtain ⟨range, hrange, hfirst, hlast⟩ := Text.exists_blankRange (by simpa using hblank)
  have hnone := isDecimal_blankRanges range hrange (c.toNat - range.1) (by omega)
  rw [Nat.add_sub_cancel' hfirst, Char.ofNat_toNat, h] at hnone
  cases hnone

theorem ne_colon_of_isDecimal (h : isDecimal c = true) : c ≠ ':' := by
  rintro rfl
  exact absurd h (by decide)

theorem exists_of_isCapital (h : isCapital c = true) : ∃ k < 26, c = Char.ofNat (65 + k) := by
  simp only [isCapital, Bool.and_eq_true, decide_eq_true_eq] at h
  have hfirst : 65 ≤ c.toNat := UInt32.le_iff_toNat_le.1 h.1
  have hlast : c.toNat ≤ 90 := UInt32.le_iff_toNat_le.1 h.2
  refine ⟨c.toNat - 65, by omega, ?_⟩
  rw [Nat.add_sub_cancel' hfirst, Char.ofNat_toNat]

theorem isBlank_of_isCapital (h : isCapital c = true) : isBlank c = false := by
  obtain ⟨k, hk, rfl⟩ := exists_of_isCapital h
  have hall : ∀ k < 26, isBlank (Char.ofNat (65 + k)) = false := by decide
  exact hall k hk

theorem isDecimal_of_isCapital (h : isCapital c = true) : isDecimal c = false := by
  obtain ⟨k, hk, rfl⟩ := exists_of_isCapital h
  have hall : ∀ k < 26, isDecimal (Char.ofNat (65 + k)) = false := by decide
  exact hall k hk

theorem isCapital_of_isDecimal (h : isDecimal c = true) : isCapital c = false := by
  by_contra hcapital
  rw [isDecimal_of_isCapital (by simpa using hcapital)] at h
  cases h

theorem forall_head?_append {P : Char → Prop} {run : List Char} (hne : run ≠ [])
    (h : ∀ c ∈ run, P c) (rest : List Char) : ∀ c ∈ (run ++ rest).head?, P c := by
  obtain ⟨c, run, rfl⟩ := List.exists_cons_of_ne_nil hne
  rintro _ ⟨⟩
  exact h c List.mem_cons_self

theorem takeRun?_blank (h : ∀ c ∈ rest.head?, isBlank c = false) :
    Text.takeRun? isBlank (' ' :: rest) = some ([' '], rest) :=
  Text.takeRun?_append (List.cons_ne_nil ' ' []) (List.forall_mem_singleton.2 (by decide)) h

/-! ### Places -/

/-- How a line and a column stand behind the name of a file. -/
def placeText (line column : List Char) : List Char := ':' :: (line ++ ':' :: (column ++ [':']))

/-- The numbers of a line and a column as they stand on a line, and a blank. -/
def StartsWithPlace (cs : List Char) : Prop :=
  ∃ line column b rest, IsNumber line ∧ IsNumber column ∧ isBlank b = true ∧
    cs = placeText line column ++ b :: rest

/-- A text with a place somewhere. -/
def HasPlace (cs : List Char) : Prop := ∃ t, t <:+ cs ∧ StartsWithPlace t

theorem isBlank_of_mem_placeText (hline : IsNumber line) (hcolumn : IsNumber column)
    (h : c ∈ placeText line column) : isBlank c = false := by
  have hcolon : isBlank ':' = false := by decide
  simp only [placeText, List.mem_cons, List.mem_append, List.not_mem_nil, or_false] at h
  rcases h with rfl | h | rfl | h | rfl
  · exact hcolon
  · exact isBlank_of_isDecimal (hline.2 c h)
  · exact hcolon
  · exact isBlank_of_isDecimal (hcolumn.2 c h)
  · exact hcolon

theorem isWord_placeText (hline : IsNumber line) (hcolumn : IsNumber column) :
    Text.IsWord (placeText line column) :=
  ⟨List.cons_ne_nil _ _, fun _ => isBlank_of_mem_placeText hline hcolumn⟩

theorem count_colon_placeText (hline : IsNumber line) (hcolumn : IsNumber column) :
    (placeText line column).count ':' = 3 := by
  have hnone {ds : List Char} (hds : IsNumber ds) : ds.count ':' = 0 :=
    List.count_eq_zero.2 fun hmem => ne_colon_of_isDecimal (hds.2 _ hmem) rfl
  simp [placeText, List.count_append, hnone hline, hnone hcolumn]

theorem HasPlace.mono {bs : List Char} (h : HasPlace cs) (hbs : cs <:+: bs) : HasPlace bs := by
  obtain ⟨_, ⟨front, rfl⟩, line, column, b, rest, hline, hcolumn, hb, rfl⟩ := h
  obtain ⟨before, after, rfl⟩ := hbs
  refine ⟨placeText line column ++ b :: (rest ++ after), ⟨before ++ front, ?_⟩,
    line, column, b, rest ++ after, hline, hcolumn, hb, rfl⟩
  simp

theorem takeWhile_of_blank {as : List Char} (has : ∀ c ∈ as, isBlank c = false)
    (hb : isBlank b = true) (rest : List Char) :
    (as ++ b :: rest).takeWhile (!isBlank ·) = as := by
  rw [List.takeWhile_append_of_pos (by simpa using has),
    List.takeWhile_cons_of_neg (by simpa using hb), List.append_nil]

/-- No place starts before another one and ends with it: it would have too many colons. -/
theorem not_startsWithPlace_append (hne : t ≠ []) (ht : ¬ HasPlace t) (hline : IsNumber line)
    (hcolumn : IsNumber column) (hb : isBlank b = true) (rest : List Char) :
    ¬ StartsWithPlace (t ++ (placeText line column ++ b :: rest)) := by
  rintro ⟨line', column', b', rest', hline', hcolumn', hb', heq⟩
  rcases List.append_eq_append_iff.1 heq with ⟨as, hplace, hrest⟩ | ⟨as, rfl, hrest⟩
  -- both end at the same blank, and only the three colons of the later one are left
  · have has : ∀ c ∈ as, isBlank c = false := fun c hc =>
      isBlank_of_mem_placeText hline' hcolumn' (hplace ▸ List.mem_append_right t hc)
    have hsame : placeText line column = as := by
      rw [← takeWhile_of_blank (fun c => isBlank_of_mem_placeText hline hcolumn) hb rest, hrest,
        takeWhile_of_blank has hb']
    have hcount := congrArg (List.count ':') hplace
    rw [List.count_append, ← hsame, count_colon_placeText hline hcolumn,
      count_colon_placeText hline' hcolumn'] at hcount
    obtain ⟨c, t, rfl⟩ := List.exists_cons_of_ne_nil hne
    obtain ⟨rfl, -⟩ := List.cons.inj hplace
    simp at hcount
  -- the blank would lie in front of the later place already
  · cases as with
    | nil =>
      obtain ⟨rfl, -⟩ := List.cons.inj hrest
      exact absurd hb' (by decide)
    | cons c as =>
      obtain ⟨rfl, -⟩ := List.cons.inj hrest
      exact ht ⟨_, List.suffix_refl _, line', column', b', as, hline', hcolumn', hb', rfl⟩

/-! ### Reading places -/

theorem takeNumber?_eq_some_iff {ds : List Char} :
    takeNumber? cs = some (ds, rest) ↔
      IsNumber ds ∧ (∀ c ∈ rest.head?, isDecimal c = false) ∧ cs = ':' :: (ds ++ rest) := by
  rw [takeNumber?, Option.bind_eq_some_iff]
  constructor
  · rintro ⟨digits, hcolon, hdigits⟩
    obtain ⟨hne, hds, hrest, rfl⟩ := Text.takeRun?_eq_some_iff.1 hdigits
    exact ⟨⟨hne, hds⟩, hrest, Text.takeFront?_eq_some_iff.1 hcolon⟩
  · rintro ⟨hds, hrest, rfl⟩
    exact ⟨ds ++ rest, Text.takeFront?_append [':'] _, takeRun?_isDecimal hds hrest⟩

/-- The line and the column of a text that starts with them, and what follows. -/
def takePlace? (cs : List Char) : Option (List Char × List Char × List Char) := do
  let (line, cs) ← takeNumber? cs
  let (column, cs) ← takeNumber? cs
  let rest ← Text.takeFront? [':'] cs
  return (line, column, rest)

theorem takePlace?_eq_some_iff : takePlace? cs = some (line, column, rest) ↔
    IsNumber line ∧ IsNumber column ∧ cs = placeText line column ++ rest := by
  constructor
  · intro h
    obtain ⟨⟨_, _⟩, hfirst, h⟩ := Option.bind_eq_some_iff.1 h
    obtain ⟨⟨_, _⟩, hsecond, h⟩ := Option.bind_eq_some_iff.1 h
    obtain ⟨_, hrest, h⟩ := Option.bind_eq_some_iff.1 h
    cases h
    obtain ⟨hline, -, rfl⟩ := takeNumber?_eq_some_iff.1 hfirst
    obtain ⟨hcolumn, -, rfl⟩ := takeNumber?_eq_some_iff.1 hsecond
    obtain rfl := Text.takeFront?_eq_some_iff.1 hrest
    exact ⟨hline, hcolumn, by simp [placeText]⟩
  · rintro ⟨hline, hcolumn, rfl⟩
    have hstop (rest : List Char) : ∀ c ∈ (':' :: rest).head?, isDecimal c = false := by
      rintro _ ⟨⟩
      decide
    have hfirst : takeNumber? (placeText line column ++ rest) =
        some (line, ':' :: (column ++ ':' :: rest)) :=
      takeNumber?_eq_some_iff.2 ⟨hline, hstop _, by simp [placeText]⟩
    have hsecond : takeNumber? (':' :: (column ++ ':' :: rest)) = some (column, ':' :: rest) :=
      takeNumber?_eq_some_iff.2 ⟨hcolumn, hstop _, rfl⟩
    have hthird : Text.takeFront? [':'] (':' :: rest) = some rest :=
      Text.takeFront?_append [':'] rest
    simp [takePlace?, hfirst, hsecond, hthird]

theorem startsWithPlace_iff : StartsWithPlace cs ↔
    ∃ p, takePlace? cs = some p ∧ ∃ b, p.2.2.head? = some b ∧ isBlank b = true := by
  constructor
  · rintro ⟨line, column, b, rest, hline, hcolumn, hb, rfl⟩
    exact ⟨(line, column, b :: rest), takePlace?_eq_some_iff.2 ⟨hline, hcolumn, rfl⟩, b, rfl, hb⟩
  · rintro ⟨⟨line, column, rest⟩, hplace, b, hhead, hb⟩
    obtain ⟨hline, hcolumn, rfl⟩ := takePlace?_eq_some_iff.1 hplace
    obtain ⟨rest, rfl⟩ := List.head?_eq_some_iff.1 hhead
    exact ⟨line, column, b, rest, hline, hcolumn, hb, rfl⟩

instance (cs : List Char) : Decidable (StartsWithPlace cs) :=
  decidable_of_iff (((takePlace? cs).any fun p => p.2.2.head?.any isBlank) = true) (by
    rw [startsWithPlace_iff, Option.any_eq_true]
    simp only [Option.any_eq_true])

instance (cs : List Char) : Decidable (HasPlace cs) :=
  decidable_of_iff (∃ t ∈ cs.tails, StartsWithPlace t)
    (exists_congr fun _ => and_congr_left' (List.mem_tails _ _))

/-- Where a line has a place, the rest of it is a code and a text. -/
theorem readTail?_eq (cs : List Char) : readTail? cs = do
    let (line, column, cs) ← takePlace? cs
    let (_, cs) ← Text.takeRun? isBlank cs
    let (letters, cs) ← Text.takeRun? isCapital cs
    let (digits, cs) ← Text.takeRun? isDecimal cs
    let (_, text) ← Text.takeRun? isBlank cs
    return ⟨line, column, letters ++ digits, text⟩ := by
  simp [readTail?, takePlace?, Option.bind_assoc]

theorem readTail?_eq_none (h : ¬ StartsWithPlace cs) : readTail? cs = none := by
  rw [readTail?_eq]
  refine Option.eq_none_iff_forall_ne_some.2 fun tail htail => h ?_
  obtain ⟨⟨line, column, rest⟩, hplace, htail⟩ := Option.bind_eq_some_iff.1 htail
  obtain ⟨⟨blanks, after⟩, hblanks, -⟩ := Option.bind_eq_some_iff.1 htail
  obtain ⟨hne, hall, -, hrest⟩ := Text.takeRun?_eq_some_iff.1 hblanks
  obtain ⟨b, blanks, rfl⟩ := List.exists_cons_of_ne_nil hne
  refine startsWithPlace_iff.2 ⟨_, hplace, b, ?_, hall b List.mem_cons_self⟩
  dsimp only at hrest ⊢
  rw [hrest]
  rfl

theorem readFrom?_eq_none (h : ¬ HasPlace cs) (before : List Char) :
    readFrom? before cs = none := by
  induction cs generalizing before with
  | nil => rfl
  | cons c cs ih =>
    have hrest : ¬ HasPlace cs := fun hplace => h (hplace.mono (List.suffix_cons c cs).isInfix)
    rw [readFrom?, readTail?_eq_none fun hstart => hrest ⟨cs, List.suffix_refl cs, hstart⟩]
    exact ih hrest (c :: before)

theorem readLine?_eq_none (h : ¬ HasPlace cs) : readLine? cs = none := by
  obtain ⟨as, bs, -, -, hcs⟩ := Text.exists_append_trim cs
  refine readFrom?_eq_none (fun hplace => h ?_) []
  exact hplace.mono ⟨as, bs, by rw [List.append_assoc, ← hcs]⟩

/-- A line is taken apart at its first place. -/
theorem readFrom?_append {file : List Char} {tail : Tail} (hne : file ≠ [])
    (hfile : ¬ HasPlace file) (hline : IsNumber line) (hcolumn : IsNumber column)
    (hb : isBlank b = true)
    (htail : readTail? (placeText line column ++ b :: rest) = some tail) (before : List Char) :
    readFrom? before (file ++ (placeText line column ++ b :: rest)) =
      some (before.reverse ++ file, tail) := by
  induction file generalizing before with
  | nil => exact absurd rfl hne
  | cons c file ih =>
    rw [List.cons_append, readFrom?]
    by_cases hend : file = []
    · subst hend
      rw [List.nil_append, htail]
      simp
    · have hrest : ¬ HasPlace file := fun hplace =>
        hfile (hplace.mono (List.suffix_cons c file).isInfix)
      rw [readTail?_eq_none (not_startsWithPlace_append hend hrest hline hcolumn hb rest)]
      refine (ih hend hrest (c :: before)).trans ?_
      simp

/-! ### Records -/

/-- A finding as it is printed. -/
structure Record where
  file : List Char
  line : Nat
  column : Nat
  letters : List Char
  digits : List Char
  text : List Char

namespace Record

def code (r : Record) : String := String.ofList (r.letters ++ r.digits)

def message (r : Record) : String := r.code ++ ": " ++ String.ofList r.text

def written (r : Record) : List Char :=
  r.file ++ (placeText (Decimal.digits r.line) (Decimal.digits r.column) ++
    ' ' :: (r.letters ++ (r.digits ++ ' ' :: r.text)))

/-- What stands on the line after the name of the file. -/
def tail (r : Record) : Tail :=
  ⟨Decimal.digits r.line, Decimal.digits r.column, r.letters ++ r.digits, r.text⟩

def issue (r : Record) : Issue :=
  flake8.issue r.line r.column r.message (severityOf (r.letters ++ r.digits)) r.code

def name (root : Path) (r : Record) : String :=
  root.relativeTo (Path.ofString (String.ofList r.file))

/-- A finding that can be read back. -/
structure IsRegular (r : Record) : Prop where
  file_ne_nil : r.file ≠ []
  file_start : ∀ c ∈ r.file.head?, isBlank c = false
  file_plain : IsPlain r.file
  file_noNul : '\x00' ∉ r.file
  file_noPlace : ¬ HasPlace r.file
  line_pos : 1 ≤ r.line
  line_short : (Decimal.digits r.line).length ≤ Decimal.maxDigits
  column_pos : 1 ≤ r.column
  column_short : (Decimal.digits r.column).length ≤ Decimal.maxDigits
  letters_ne_nil : r.letters ≠ []
  letters : ∀ c ∈ r.letters, isCapital c = true
  digits_ne_nil : r.digits ≠ []
  digits : ∀ c ∈ r.digits, c.isDigit = true
  text_plain : IsPlain r.text
  text_trimmed : IsTrimmed r.text

variable {r : Record}

theorem isRegular_iff : r.IsRegular ↔
    (r.file ≠ [] ∧ r.file.head?.all (!isBlank ·) = true ∧ IsPlain r.file ∧ '\x00' ∉ r.file ∧
      ¬ HasPlace r.file) ∧
    (1 ≤ r.line ∧ (Decimal.digits r.line).length ≤ Decimal.maxDigits) ∧
    (1 ≤ r.column ∧ (Decimal.digits r.column).length ≤ Decimal.maxDigits) ∧
    (r.letters ≠ [] ∧ r.letters.all isCapital = true) ∧
    (r.digits ≠ [] ∧ r.digits.all Char.isDigit = true) ∧ IsPlain r.text ∧ IsTrimmed r.text := by
  constructor
  · intro h
    refine ⟨⟨h.file_ne_nil, ?_, h.file_plain, h.file_noNul, h.file_noPlace⟩,
      ⟨h.line_pos, h.line_short⟩, ⟨h.column_pos, h.column_short⟩,
      ⟨h.letters_ne_nil, List.all_eq_true.2 h.letters⟩,
      ⟨h.digits_ne_nil, List.all_eq_true.2 h.digits⟩, h.text_plain, h.text_trimmed⟩
    rw [Option.all_eq_true]
    exact fun c hc => by simpa using h.file_start c hc
  · rintro ⟨⟨hne, hstart, hplain, hnul, hplace⟩, ⟨hline, hshort⟩, ⟨hcolumn, hshort'⟩,
      ⟨hletters, hcapital⟩, ⟨hdigits, hdigit⟩, htext, htrimmed⟩
    exact ⟨hne, fun c hc => by simpa [Option.mem_def.1 hc] using hstart, hplain, hnul, hplace,
      hline, hshort, hcolumn, hshort', hletters, List.all_eq_true.1 hcapital, hdigits,
      List.all_eq_true.1 hdigit, htext, htrimmed⟩

instance (r : Record) : Decidable r.IsRegular := decidable_of_iff' _ isRegular_iff

namespace IsRegular

theorem isDecimal_digits (h : r.IsRegular) : ∀ c ∈ r.digits, isDecimal c = true :=
  fun c hc => Decimal.isDecimal_of_isDigit (h.digits c hc)

theorem isWord_letters (h : r.IsRegular) : Text.IsWord r.letters :=
  ⟨h.letters_ne_nil, fun c hc => isBlank_of_isCapital (h.letters c hc)⟩

theorem isWord_digits (h : r.IsRegular) : Text.IsWord r.digits :=
  ⟨h.digits_ne_nil, fun c hc => isBlank_of_isDecimal (h.isDecimal_digits c hc)⟩

theorem isPlain_written (h : r.IsRegular) : IsPlain r.written := by
  have hplace : IsPlain (placeText (Decimal.digits r.line) (Decimal.digits r.column)) :=
    (isWord_placeText (Diff.isNumber_digits _) (Diff.isNumber_digits _)).isPlain
  have hblank : Text.endsLine ' ' = false := by decide
  simp only [written, Text.isPlain_append, Text.isPlain_cons]
  exact ⟨h.file_plain, hplace, hblank, h.isWord_letters.isPlain, h.isWord_digits.isPlain, hblank,
    h.text_plain⟩

theorem trim_written (h : r.IsRegular) : Text.trim r.written = r.written := by
  obtain ⟨c, file, hfile⟩ := List.exists_cons_of_ne_nil h.file_ne_nil
  obtain ⟨-, d, hd, hlast⟩ := h.text_trimmed
  refine IsTrimmed.trim_eq ⟨⟨c, ?_, h.file_start c (by rw [hfile]; rfl)⟩, d, ?_, hlast⟩
  · rw [written, hfile]
    rfl
  · simp [written, List.getLast?_append, List.getLast?_cons, Option.mem_def.1 hd]

theorem readTail?_written (h : r.IsRegular) :
    readTail? (placeText (Decimal.digits r.line) (Decimal.digits r.column) ++
        ' ' :: (r.letters ++ (r.digits ++ ' ' :: r.text))) =
      some r.tail := by
  have hplace (rest : List Char) :
      takePlace? (placeText (Decimal.digits r.line) (Decimal.digits r.column) ++ rest) =
        some (Decimal.digits r.line, Decimal.digits r.column, rest) :=
    takePlace?_eq_some_iff.2 ⟨Diff.isNumber_digits _, Diff.isNumber_digits _, rfl⟩
  have hgap := takeRun?_blank
    (forall_head?_append h.letters_ne_nil h.isWord_letters.2 (r.digits ++ ' ' :: r.text))
  have hletters := Text.takeRun?_append h.letters_ne_nil h.letters
    (forall_head?_append h.digits_ne_nil
      (fun c hc => isCapital_of_isDecimal (h.isDecimal_digits c hc)) (' ' :: r.text))
  have hdigits : Text.takeRun? isDecimal (r.digits ++ ' ' :: r.text) =
      some (r.digits, ' ' :: r.text) :=
    Text.takeRun?_append h.digits_ne_nil h.isDecimal_digits (by rintro _ ⟨⟩; decide)
  have htext : Text.takeRun? isBlank (' ' :: r.text) = some ([' '], r.text) := by
    obtain ⟨⟨c, hc, hblank⟩, -⟩ := h.text_trimmed
    refine takeRun?_blank fun c' hc' => ?_
    rwa [← Option.mem_unique hc hc']
  rw [readTail?_eq, hplace]
  simp only [Option.bind_eq_bind, Option.bind_some, hgap, hletters, hdigits, htext]
  rfl

theorem readLine?_written (h : r.IsRegular) : readLine? r.written = some (r.file, r.tail) := by
  rw [readLine?, h.trim_written, written,
    readFrom?_append h.file_ne_nil h.file_noPlace (Diff.isNumber_digits _) (Diff.isNumber_digits _)
      (by decide) h.readTail?_written]
  rfl

theorem fileName_eq (h : r.IsRegular) (root : Path) :
    fileName root (String.ofList r.file) = .ok (r.name root) := by
  rw [fileName, if_neg (by simpa using h.file_noNul)]
  rfl

theorem issue_eq (h : r.IsRegular) :
    (r.issue.line, r.issue.column, r.issue.categoryKey, r.issue.message) =
      (r.line, r.column, r.code, r.message) := by
  have hline : max 1 r.line = r.line := Nat.max_eq_right h.line_pos
  have hcolumn : max 1 r.column = r.column := Nat.max_eq_right h.column_pos
  rw [issue, Linter.issue]
  dsimp only
  rw [Int.toNat_natCast, Int.toNat_natCast, hline, hcolumn]

theorem readParts_written (h : r.IsRegular) (root : Path) :
    readParts root r.file r.tail = .ok (r.name root, r.issue) := by
  have hnumber {n : Nat} (hn : (Decimal.digits n).length ≤ Decimal.maxDigits) :
      readNumber (Decimal.digits n) = .ok n := by
    rw [readNumber, Decimal.readDigits_digits ((Decimal.length_digits_le_iff (by decide)).1 hn)]
    rfl
  rw [readParts, tail, h.fileName_eq, hnumber h.line_short, hnumber h.column_short,
    h.text_trimmed.trim_eq]
  rfl

end IsRegular

end Record

/-! ### Outputs -/

theorem readLines_append_of_none {ls : List (List Char)} (h : ∀ l ∈ ls, readLine? l = none)
    (root : Path) (rest : List (List Char)) :
    readLines root (ls ++ rest) = readLines root rest := by
  induction ls with
  | nil => rfl
  | cons l ls ih =>
    obtain ⟨hl, hls⟩ := List.forall_mem_cons.1 h
    rw [List.cons_append, readLines, hl]
    exact ih hls

/-- What is printed: a finding, or anything without a place in it. -/
inductive Entry
  | finding (r : Record)
  | other (cs : List Char)

namespace Entry

def written : Entry → List Char
  | finding r => r.written
  | other cs => cs

def record? : Entry → Option Record
  | finding r => some r
  | other _ => none

/-- An entry that can be told apart from others. -/
def IsRegular : Entry → Prop
  | finding r => r.IsRegular
  | other cs => ¬ HasPlace cs

instance : (e : Entry) → Decidable e.IsRegular
  | finding r => inferInstanceAs (Decidable r.IsRegular)
  | other cs => inferInstanceAs (Decidable (¬ HasPlace cs))

def findings (root : Path) (e : Entry) : Findings :=
  e.record?.toList.map fun r => (r.name root, r.issue)

variable {e : Entry}

/-- An entry has its own lines, with a line feed at its end or without one, and on these lines
its finding is all that is read. -/
theorem IsRegular.readLines_append (h : e.IsRegular) {ls : List (List Char)}
    (hls : ls = Text.breakLines (e.written ++ ['\n']) ∨ ls = Text.breakLines e.written)
    {root : Path} {rest : List (List Char)} {fs : Findings} (hrest : readLines root rest = .ok fs) :
    readLines root (ls ++ rest) = .ok (e.findings root ++ fs) := by
  cases e with
  | finding r =>
    have hone : ls = [r.written] := by
      have hplain := Record.IsRegular.isPlain_written h
      rcases hls with rfl | rfl
      · rw [written, Text.breakLines_newline, Text.firstLine_of_isPlain hplain,
          Text.laterLines_of_isPlain hplain]
      · exact Text.breakLines_eq_singleton hplain
          (List.append_ne_nil_of_left_ne_nil h.file_ne_nil _)
    rw [hone, List.singleton_append, readLines, Record.IsRegular.readLine?_written h]
    dsimp only
    rw [Record.IsRegular.readParts_written h, hrest]
    rfl
  | other cs =>
    have hnone : ∀ l ∈ ls, readLine? l = none := by
      intro l hl
      refine readLine?_eq_none fun hplace => h (hplace.mono ?_)
      rcases hls with rfl | rfl
      · exact Text.infix_of_mem_breakLines_newline hl
      · exact Text.infix_of_mem_breakLines hl
    rw [readLines_append_of_none hnone, hrest]
    rfl

end Entry

def printed (es : List Entry) : List Char := Text.unlines (es.map Entry.written)

variable {es : List Entry}

theorem readLines_printed (h : ∀ e ∈ es, e.IsRegular) {root : Path} {cs : List Char}
    {fs : Findings} (hcs : readLines root (Text.breakLines cs) = .ok fs) :
    readLines root (Text.breakLines (printed es ++ cs)) =
      .ok (es.flatMap (Entry.findings root) ++ fs) := by
  induction es with
  | nil => exact hcs
  | cons e es ih =>
    obtain ⟨he, hes⟩ := List.forall_mem_cons.1 h
    have hstart : Text.breakLines (printed (e :: es) ++ cs) =
        Text.breakLines (e.written ++ ['\n']) ++ Text.breakLines (printed es ++ cs) := by
      rw [← Text.breakLines_append_newline]
      simp [printed, Text.unlines]
    rw [hstart, he.readLines_append (.inl rfl) (ih hes), List.flatMap_cons, List.append_assoc]

/-- What is printed is read back, also where the last line feed is missing. -/
theorem read_printed (h : ∀ e ∈ es, e.IsRegular) (root : Path) {output : String}
    (houtput : output.toList = printed es ∨ output.toList = (printed es).dropLast) :
    read root output = .ok (es.flatMap (Entry.findings root)) := by
  have hnone : readLines root [] = .ok [] := rfl
  rw [read]
  rcases houtput with houtput | houtput
  · have hlines : output.toList = printed es ++ [] := by rw [houtput, List.append_nil]
    rw [hlines, readLines_printed h hnone, List.append_nil]
  · rcases List.eq_nil_or_concat' es with rfl | ⟨before, last, rfl⟩
    · rw [houtput]
      rfl
    · obtain ⟨hbefore, hlast⟩ := List.forall_mem_append.1 h
      have hlines : output.toList = printed before ++ last.written := by
        rw [houtput]
        simp [printed, Text.unlines, ← List.append_assoc]
      have hend := (hlast last List.mem_cons_self).readLines_append (.inr rfl) hnone
      rw [List.append_nil] at hend
      rw [hlines, readLines_printed hbefore hend]
      simp

/-- The findings among some entries. -/
def records (es : List Entry) : List Record := es.filterMap Entry.record?

theorem isRegular_of_mem_records (h : ∀ e ∈ es, e.IsRegular) {r : Record} (hr : r ∈ records es) :
    r.IsRegular := by
  obtain ⟨e, he, hrecord⟩ := List.mem_filterMap.1 hr
  cases e with
  | finding r' =>
    obtain rfl := Option.some.inj hrecord
    exact h _ he
  | other cs => cases hrecord

theorem flatMap_findings (root : Path) (es : List Entry) :
    es.flatMap (Entry.findings root) = (records es).map fun r => (r.name root, r.issue) := by
  rw [records, List.filterMap_eq_flatMap_toList, List.map_flatMap]
  rfl

/-- Whatever stands between findings, they are read back from the lines on which they are
printed: each once, under the name of its file and in the order of printing, and nothing else. -/
theorem read_printed_byFile (root : Path) (h : ∀ e ∈ es, e.IsRegular) {output : String}
    (houtput : output.toList = printed es ∨ output.toList = (printed es).dropLast) :
    ∃ groups, (read root output).map byFile = .ok groups ∧ (groups.map Prod.fst).Nodup ∧
      (∀ file, file ∈ groups.map Prod.fst ↔
        ∃ r ∈ records es, fileName root (String.ofList r.file) = .ok file) ∧
      ∀ file, (issuesOf groups file).map (fun i => (i.line, i.column, i.categoryKey, i.message)) =
        ((records es).filter fun r => fileName root (String.ofList r.file) = .ok file).map
          fun r => (r.line, r.column, r.code, r.code ++ ": " ++ String.ofList r.text) := by
  have hname {r : Record} (hr : r ∈ records es) (file : String) :
      fileName root (String.ofList r.file) = .ok file ↔ r.name root = file := by
    rw [(isRegular_of_mem_records h hr).fileName_eq, Except.ok.injEq]
  refine ⟨_, congrArg (Except.map byFile) (read_printed h root houtput), nodup_byFile _,
    fun file => ?_, fun file => ?_⟩
  · rw [mem_keys_byFile, flatMap_findings]
    simp only [List.mem_map, exists_exists_and_eq_and]
    exact exists_congr fun r => and_congr_right fun hr => (hname hr file).symm
  · rw [issuesOf_byFile, flatMap_findings, Findings.about, List.filter_map, List.map_map,
      List.map_map]
    have hfilter : (records es).filter (fun r => fileName root (String.ofList r.file) = .ok file) =
        (records es).filter fun r => r.name root = file :=
      List.filter_congr fun r hr => decide_eq_decide.2 (hname hr file)
    rw [hfilter]
    refine List.map_congr_left fun r hr => ?_
    exact (isRegular_of_mem_records h (List.mem_filter.1 hr).1).issue_eq

/-- A file that is named in two ways, another one whose name ends like a line, and a remark. -/
def checked : List Entry :=
  [.finding ⟨"./a.py".toList, 12, 5, ['F'], "401".toList, "'b:1:2' unused: 3:4: x".toList⟩,
    .other "checked a.py:1:2, b.py".toList,
    .finding ⟨"a.py:7".toList, 1, 1, ['E'], "902".toList, "TokenError".toList⟩,
    .finding ⟨"/ws/a.py".toList, 13, 1, ['W'], "291".toList, "trailing whitespace".toList⟩]

theorem read_printed_checked :
    (∀ e ∈ checked, e.IsRegular) ∧
    ∃ groups, (read (Path.ofString "/ws") (String.ofList (printed checked))).map byFile =
        .ok groups ∧
      (issuesOf groups "a.py").map (fun i => (i.line, i.column, i.categoryKey, i.message)) =
        [(12, 5, "F401", "F401: 'b:1:2' unused: 3:4: x"),
          (13, 1, "W291", "W291: trailing whitespace")] ∧
      (issuesOf groups "a.py:7").map (fun i => (i.line, i.column, i.categoryKey, i.message)) =
        [(1, 1, "E902", "E902: TokenError")] := by
  have hregular : ∀ e ∈ checked, e.IsRegular := by decide +kernel
  refine ⟨hregular, ?_⟩
  obtain ⟨groups, hread, -, -, hissues⟩ := read_printed_byFile (Path.ofString "/ws") hregular
    (.inl String.toList_ofList)
  refine ⟨groups, hread, ?_, ?_⟩
  · rw [hissues]
    decide +kernel
  · rw [hissues]
    decide +kernel

end RuleReview.Linter.Flake8
