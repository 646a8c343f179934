import RuleReview.Proofs.Console.Print
import RuleReview.Proofs.Stop
import RuleReview.Proofs.Text.Words

/-! Texts with tags. What is read of a text is what stands outside of its tags, without some of its
backslashes, so it is no longer than the text. Proved: a text without codes of pictures is read as
it is exactly if none of its brackets starts a tag or stands after a backslash. -/

namespace RuleReview

/-! ### Parts of a text -/

namespace Text

variable {sep : Char} {as cs : List Char}

/-- A part of a text that starts with a character is one of what comes after a text without it. -/
theorem isInfix_append_iff {c : Char} {w : List Char} (h : c ∉ as) :
    c :: w <:+: as ++ cs ↔ c :: w <:+: cs := by
  induction as with
  | nil => rfl
  | cons a as ih =>
    rw [List.mem_cons, not_or] at h
    rw [List.cons_append, List.infix_cons_iff, ih h.2, List.cons_prefix_cons]
    exact or_iff_right fun hfirst => h.1 hfirst.1

theorem splitOn_eq_cons (sep : Char) (cs : List Char) : ∃ part parts,
    splitOn sep cs = part :: parts ∧ cs = part ++ parts.flatMap (sep :: ·) := by
  induction cs with
  | nil => exact ⟨[], [], rfl, rfl⟩
  | cons c cs ih =>
    obtain ⟨part, parts, hsplit, hcs⟩ := ih
    rw [splitOn_cons, hsplit]
    split
    next hc => exact ⟨[], part :: parts, rfl, by simp [hc, hcs]⟩
    next => exact ⟨c :: part, parts, rfl, by simp [hcs]⟩

/-- Between two separators stands a part of a text. -/
theorem isInfix_of_mem_dropLast {parts : List (List Char)} {part : List Char}
    (h : part ∈ parts.dropLast) : sep :: (part ++ [sep]) <:+: parts.flatMap (sep :: ·) := by
  induction parts with
  | nil => cases h
  | cons first parts ih =>
    cases parts with
    | nil => cases h
    | cons second parts =>
      rcases List.mem_cons.1 h with rfl | h
      · exact ⟨[], second ++ parts.flatMap (sep :: ·), by simp⟩
      · exact (ih h).trans (List.suffix_append (sep :: first) _).isInfix

theorem isInfix_of_mem {parts : List (List Char)} {part : List Char} (h : part ∈ parts) :
    sep :: part <:+: parts.flatMap (sep :: ·) := by
  obtain ⟨front, back, rfl⟩ := List.append_of_mem h
  exact ⟨front.flatMap (sep :: ·), back.flatMap (sep :: ·), by simp⟩

/-- A text without a separator belongs to the first part. -/
theorem splitOn_append_of_notMem (h : sep ∉ as) {part : List Char} {parts : List (List Char)}
    (hcs : splitOn sep cs = part :: parts) : splitOn sep (as ++ cs) = (as ++ part) :: parts := by
  induction as with
  | nil => exact hcs
  | cons a as ih =>
    rw [List.mem_cons, not_or] at h
    rw [List.cons_append, splitOn_cons, if_neg (Ne.symm h.1), ih h.2]
    rfl

end Text

namespace Console

/-! ### Names of pictures -/

namespace Emoji

/-- Whether a picture has a name, which may say how the picture is to be shown. -/
def IsName (name : List Char) : Prop := (picture? (Text.lower (takeVariant name).1)).isSome

theorem shown_of_not_isName {name : List Char} (h : ¬IsName name) :
    shown name = ':' :: name ++ [':'] := by
  have hnone : picture? (Text.lower (takeVariant name).1) = none := by
    rwa [IsName, Option.not_isSome_iff_eq_none] at h
  -- for an equation of the definition the table would be evaluated
  delta shown
  simp only [hnone]

theorem replaceParts_eq {parts : List (List Char)}
    (h : ∀ name ∈ parts.dropLast, (∀ c ∈ name, Text.isBlank c = false) → ¬IsName name) :
    replaceParts parts = parts.flatMap (':' :: ·) := by
  fun_induction replaceParts parts with
  | case1 => rfl
  | case2 part => simp
  | case3 name part parts hblank ih =>
    rw [ih fun n hn => h n (List.mem_cons_of_mem _ hn)]
    simp
  | case4 name part parts hblank ih =>
    have hname : ¬IsName name := h name List.mem_cons_self (by simpa using hblank)
    have hrest : ∀ n ∈ parts.dropLast, (∀ c ∈ n, Text.isBlank c = false) → ¬IsName n := by
      intro n hn
      cases parts with
      | nil => cases hn
      | cons q parts => exact h n (List.mem_cons_of_mem _ (List.mem_cons_of_mem _ hn))
    rw [ih hrest, shown_of_not_isName hname]
    simp

/-- A text stays as it is if no name of a picture stands between two of its colons. -/
theorem replace_eq_self {cs : List Char}
    (h : ∀ name, ':' :: (name ++ [':']) <:+: cs → ':' ∉ name →
      (∀ c ∈ name, Text.isBlank c = false) → ¬IsName name) : replace cs = cs := by
  obtain ⟨part, parts, hsplit, hcs⟩ := Text.splitOn_eq_cons ':' cs
  have hnames : ∀ name ∈ parts.dropLast, (∀ c ∈ name, Text.isBlank c = false) → ¬IsName name := by
    intro name hname hblank
    refine h name ?_ ?_ hblank
    · rw [hcs]
      exact (Text.isInfix_of_mem_dropLast hname).trans (List.suffix_append part _).isInfix
    · have hpart : name ∈ Text.splitOn ':' cs := by
        rw [hsplit]
        exact List.mem_cons_of_mem _ (List.dropLast_subset _ hname)
      exact Text.not_mem_of_mem_splitOn hpart
  rw [replace, hsplit]
  simp only
  rw [replaceParts_eq hnames, ← hcs]

end Emoji

namespace Markup

/-! ### Brackets after backslashes -/

theorem unescape_sublist (cs : List Char) : (unescape cs).Sublist cs := by
  fun_induction unescape cs with
  | case1 cs ih => exact (ih.cons_cons '[').cons '\\'
  | case2 c cs h ih => exact ih.cons_cons c
  | case3 => exact .refl _

theorem mem_unescape {c : Char} (h : c ≠ '\\') {cs : List Char} : c ∈ unescape cs ↔ c ∈ cs := by
  fun_induction unescape cs with
  | case1 cs ih => simp [ih, h]
  | case2 d cs hd ih => rw [List.mem_cons, List.mem_cons, ih]
  | case3 => rfl

theorem unescape_cons {c : Char} {cs : List Char} (h : c = '\\' → cs.head? ≠ some '[') :
    unescape (c :: cs) = c :: unescape cs := by
  refine unescape.eq_2 c cs ?_
  rintro rest hslash rfl
  exact h hslash rfl

/-- What stands before and after a character of a text without its marks. -/
theorem exists_of_unescape_eq {c : Char} (hslash : c ≠ '\\') (hbracket : c ≠ '[')
    {cs xs ys : List Char} (h : unescape cs = xs ++ c :: ys) :
    ∃ as bs, cs = as ++ c :: bs ∧ unescape as = xs ∧ unescape bs = ys := by
  fun_induction unescape cs generalizing xs with
  | case1 cs ih =>
    cases xs with
    | nil => exact absurd (List.cons.inj h).1.symm hbracket
    | cons x xs =>
      obtain ⟨rfl, hrest⟩ := List.cons.inj h
      obtain ⟨as, bs, rfl, rfl, rfl⟩ := ih hrest
      exact ⟨'\\' :: '[' :: as, bs, rfl, rfl, rfl⟩
  | case2 d cs hd ih =>
    cases xs with
    | nil =>
      obtain ⟨rfl, rfl⟩ := List.cons.inj h
      exact ⟨[], cs, rfl, rfl, rfl⟩
    | cons x xs =>
      obtain ⟨rfl, hrest⟩ := List.cons.inj h
      obtain ⟨as, bs, rfl, rfl, rfl⟩ := ih hrest
      refine ⟨d :: as, bs, rfl, unescape_cons fun hd' hhead => ?_, rfl⟩
      obtain ⟨tail, rfl⟩ := List.head?_eq_some_iff.1 hhead
      exact hd _ hd' rfl
  | case3 => simp at h

theorem unescape_eq_self_iff {cs : List Char} : unescape cs = cs ↔ ¬['\\', '['] <:+: cs := by
  fun_induction unescape cs with
  | case1 cs ih =>
    have hescape : ['\\', '['] <:+: '\\' :: '[' :: cs := ⟨[], cs, rfl⟩
    simp [hescape]
  | case2 c cs hc ih =>
    have hfront : ¬['\\', '['] <+: c :: cs := by
      rintro ⟨tail, htail⟩
      obtain ⟨rfl, rfl⟩ := List.cons.inj htail
      exact hc tail rfl rfl
    rw [List.cons_inj_right, ih, List.infix_cons_iff, or_iff_right hfront]
  | case3 => simp

/-! ### Texts without tags -/

/-- Whether a text holds the code of a picture: between two colons a name of one without blanks,
which is looked up without the backslashes that stand before brackets. -/
def HasCode (cs : List Char) : Prop :=
  ∃ name, ':' :: (name ++ [':']) <:+: cs ∧ ':' ∉ name ∧ (∀ c ∈ name, Text.isBlank c = false) ∧
    Emoji.IsName (unescape name)

/-- Whether no bracket of a text is taken for the start of a tag, or goes with a backslash before
it. A tag starts with a small letter or one of three signs and ends before the next bracket. -/
structure IsLiteral (cs : List Char) : Prop where
  no_tag : ∀ c body, startsTag c = true → '[' ∉ body → ¬ '[' :: c :: (body ++ [']']) <:+: cs
  no_escape : ¬['\\', '['] <:+: cs

theorem HasCode.mono {as cs : List Char} (h : HasCode as) (hcs : as <:+: cs) : HasCode cs := by
  obtain ⟨name, hname, hrest⟩ := h
  exact ⟨name, hname.trans hcs, hrest⟩

theorem not_hasCode_of_notMem {cs : List Char} (h : ':' ∉ cs) : ¬HasCode cs :=
  fun ⟨_, hname, _⟩ => h (hname.subset List.mem_cons_self)

theorem hasCode_append_iff {as : List Char} (h : ':' ∉ as) (cs : List Char) :
    HasCode (as ++ cs) ↔ HasCode cs :=
  exists_congr fun _ => and_congr_left' (Text.isInfix_append_iff h)

theorem isLiteral_append_iff {as : List Char} (hbracket : '[' ∉ as) (hslash : '\\' ∉ as)
    (cs : List Char) : IsLiteral (as ++ cs) ↔ IsLiteral cs := by
  constructor
  · rintro ⟨htag, hescape⟩
    refine ⟨fun c body hc hbody => ?_, by simpa [Text.isInfix_append_iff hslash] using hescape⟩
    simpa [Text.isInfix_append_iff hbracket] using htag c body hc hbody
  · rintro ⟨htag, hescape⟩
    refine ⟨fun c body hc hbody => ?_, by simpa [Text.isInfix_append_iff hslash] using hescape⟩
    simpa [Text.isInfix_append_iff hbracket] using htag c body hc hbody

/-- Without codes a text keeps its names. -/
theorem replace_unescape {cs : List Char} (h : ¬HasCode cs) :
    Emoji.replace (unescape cs) = unescape cs := by
  refine Emoji.replace_eq_self fun name hname hcolon hblank hpicture => h ?_
  obtain ⟨front, back, hcs⟩ := hname
  have hopen : unescape cs = front ++ ':' :: (name ++ ':' :: back) := by simpa using hcs.symm
  obtain ⟨as, bs, rfl, -, hrest⟩ := exists_of_unescape_eq (by decide) (by decide) hopen
  obtain ⟨written, ds, rfl, rfl, -⟩ := exists_of_unescape_eq (by decide) (by decide) hrest
  refine ⟨written, ⟨as, ds, by simp⟩, ?_, fun c hc => ?_, hpicture⟩
  · rwa [mem_unescape (by decide)] at hcolon
  · by_cases hslash : c = '\\'
    · subst hslash
      decide
    · exact hblank c ((mem_unescape hslash).2 hc)

theorem takeTag?_eq_some {cs body after : List Char} (h : takeTag? cs = some (body, after)) :
    ∃ c rest, startsTag c = true ∧ body = c :: rest ∧ cs = c :: (rest ++ ']' :: after) := by
  cases cs with
  | nil => cases h
  | cons c rest =>
    rw [takeTag?] at h
    split at h
    next htag =>
      obtain ⟨hc, hend⟩ := Bool.and_eq_true_iff.1 htag
      obtain ⟨d, after', hdrop, hd⟩ := Text.exists_dropWhile_eq (p := (· != ']'))
        ⟨']', by simpa using hend, rfl⟩
      obtain rfl : d = ']' := by simpa using hd
      have hparts := List.takeWhile_append_dropWhile (p := (· != ']')) (l := rest)
      rw [hdrop] at h hparts
      cases h
      exact ⟨c, _, hc, rfl, congrArg (c :: ·) hparts.symm⟩
    next => cases h

theorem takeTag?_ne_none {c : Char} (h : startsTag c = true) (body after : List Char) :
    takeTag? (c :: (body ++ ']' :: after)) ≠ none := by
  rw [takeTag?, if_pos (by simp [h])]
  exact Option.some_ne_none _

/-- A bracket starts a tag exactly if the part after it is taken for one. -/
theorem isLiteral_iff {cs : List Char} : IsLiteral cs ↔
    (∀ part ∈ (Text.splitOn '[' cs).tail, takeTag? part = none) ∧ unescape cs = cs := by
  rw [unescape_eq_self_iff]
  constructor
  · rintro ⟨htag, hescape⟩
    refine ⟨fun part hpart => ?_, hescape⟩
    cases htake : takeTag? part with
    | none => rfl
    | some taken =>
      obtain ⟨body, after⟩ := taken
      obtain ⟨c, rest, hc, -, rfl⟩ := takeTag?_eq_some htake
      have hbracket := Text.not_mem_of_mem_splitOn (List.mem_of_mem_tail hpart)
      obtain ⟨first, parts, hsplit, hcs⟩ := Text.splitOn_eq_cons '[' cs
      rw [hsplit, List.tail_cons] at hpart
      refine absurd ?_ (htag c rest hc fun hmem => hbracket (by simp [hmem]))
      have hwithin : '[' :: (c :: (rest ++ ']' :: after)) <:+: cs := by
        rw [hcs]
        exact (Text.isInfix_of_mem hpart).trans (List.suffix_append first _).isInfix
      exact .trans ⟨[], after, by simp⟩ hwithin
  · rintro ⟨htag, hescape⟩
    refine ⟨fun c body hc hbody hwithin => ?_, hescape⟩
    obtain ⟨front, back, rfl⟩ := hwithin
    obtain ⟨first, parts, hback, -⟩ := Text.splitOn_eq_cons '[' back
    have hnone : '[' ∉ c :: (body ++ [']']) := by
      have hstart : c ≠ '[' := by
        rintro rfl
        cases hc
      simp [Ne.symm hstart, hbody]
    have hsplit : Text.splitOn '[' (front ++ '[' :: c :: (body ++ [']']) ++ back) =
        Text.splitOn '[' front ++ (c :: (body ++ ']' :: first)) :: parts := by
      have hafter := Text.splitOn_append_of_notMem hnone hback
      rw [List.append_assoc, List.cons_append, Text.splitOn_append_sep, hafter]
      simp
    refine takeTag?_ne_none hc body first (htag _ ?_)
    rw [hsplit, List.tail_append_of_ne_nil (Text.splitOn_ne_nil '[' front)]
    exact List.mem_append_right _ List.mem_cons_self

instance (cs : List Char) : Decidable (IsLiteral cs) := decidable_of_iff' _ isLiteral_iff

/-! ### Reading -/

/-- What stands outside of tags. -/
def plainText (ps : List Part) : List Char :=
  ps.flatMap fun
    | .plain cs => unescape cs
    | .tag .. => []

theorem length_unescape_le (cs : List Char) : (unescape cs).length ≤ cs.length :=
  (unescape_sublist cs).length_le

/-- What is read of parts without codes is what stands outside of their tags. -/
theorem join_eq_ok {ps : List Part} (hcodes : ∀ cs, .plain cs ∈ ps → ¬HasCode cs)
    {opened : List Opened} {t : List Char} (h : join opened ps = .ok t) : t = plainText ps := by
  induction ps generalizing opened t with
  | nil =>
    cases h
    rfl
  | cons part ps ih =>
    have hrest : ∀ cs, .plain cs ∈ ps → ¬HasCode cs := fun cs hcs =>
      hcodes cs (List.mem_cons_of_mem _ hcs)
    cases part with
    | plain cs =>
      obtain ⟨t', ht', h⟩ := Stop.bind_eq_ok.1 h
      cases h
      rw [ih hrest ht', replace_unescape (hcodes cs List.mem_cons_self)]
      rfl
    | tag t' position =>
      obtain ⟨opened', -, h⟩ := Stop.bind_eq_ok.1 h
      exact ih hrest h

/-- What stands before a tag is a text and backslashes, of which the last one may mark the tag. -/
theorem exists_beforeTag (before : List Char) : ∃ front n,
    before = front ++ List.replicate n '\\' ∧
      beforeTag before = ([.plain front, .plain (List.replicate (n / 2) '\\')], n % 2 == 1) := by
  obtain ⟨front, trailing, rfl, -, hlength, hslashes⟩ := exists_trailing (· == '\\') before
  have htrailing : trailing = List.replicate trailing.length '\\' :=
    List.eq_replicate_iff.2 ⟨rfl, by simpa using hslashes⟩
  refine ⟨front, trailing.length, by rw [← htrailing], ?_⟩
  rw [beforeTag, hlength, List.length_append, Nat.add_sub_cancel, List.take_left]

section partsFrom

variable {position : Nat} {before cs : List Char} {rest : List (List Char)}

theorem partsFrom_of_none (h : takeTag? cs = none) : partsFrom position before (cs :: rest) =
    partsFrom (position + 1 + cs.length) (before ++ '[' :: cs) rest := by
  rw [partsFrom, h]

variable (position before rest) in
/-- A tag is read, or is a text if a backslash marks it. -/
theorem exists_partsFrom_of_some {body after : List Char}
    (h : takeTag? cs = some (body, after)) : ∃ front n tag,
      before = front ++ List.replicate n '\\' ∧
      partsFrom position before (cs :: rest) =
        .plain front :: .plain (List.replicate (n / 2) '\\') :: tag ::
          partsFrom (position + 1 + cs.length) after rest ∧
      (n % 2 = 1 ∧ tag = .plain ('[' :: body ++ [']']) ∨ ∃ t, tag = .tag t position) := by
  obtain ⟨front, n, hbefore, htag⟩ := exists_beforeTag before
  rw [partsFrom, h]
  simp only [htag]
  refine ⟨front, n, _, hbefore, rfl, ?_⟩
  by_cases hodd : n % 2 = 1
  · exact .inl ⟨hodd, by simp [hodd]⟩
  · exact .inr ⟨_, by simp [hodd]; rfl⟩

end partsFrom

theorem isInfix_of_mem_partsFrom {position : Nat} {before cs : List Char} {rest : List (List Char)}
    (h : .plain cs ∈ partsFrom position before rest) :
    cs <:+: before ++ rest.flatMap ('[' :: ·) := by
  induction rest generalizing position before with
  | nil =>
    obtain rfl : cs = before := by simpa [partsFrom] using h
    simp
  | cons part rest ih =>
    cases htake : takeTag? part with
    | none =>
      rw [partsFrom_of_none htake] at h
      simpa using ih h
    | some taken =>
      obtain ⟨body, after⟩ := taken
      obtain ⟨front, n, tag, rfl, hparts, htag⟩ :=
        exists_partsFrom_of_some position before rest htake
      obtain ⟨c, body', -, rfl, rfl⟩ := takeTag?_eq_some htake
      rw [hparts, List.mem_cons, List.mem_cons, List.mem_cons] at h
      rcases h with h | h | h | h
      · cases h
        rw [List.append_assoc]
        exact (List.prefix_append _ _).isInfix
      · cases h
        have hslashes : List.replicate n '\\' =
            List.replicate (n / 2) '\\' ++ List.replicate (n - n / 2) '\\' := by
          rw [List.replicate_append_replicate, Nat.add_sub_cancel' (Nat.div_le_self n 2)]
        rw [hslashes, List.append_assoc, List.append_assoc]
        exact (List.prefix_append _ _).isInfix.trans (List.suffix_append front _).isInfix
      · rcases htag with ⟨-, rfl⟩ | ⟨t, rfl⟩
        · cases h
          exact ⟨front ++ List.replicate n '\\', after ++ rest.flatMap ('[' :: ·), by simp⟩
        · cases h
      · exact (ih h).trans ⟨front ++ List.replicate n '\\' ++ '[' :: c :: (body' ++ [']']), [],
          by simp⟩

theorem partsFrom_of_forall {rest : List (List Char)} (h : ∀ part ∈ rest, takeTag? part = none)
    (position : Nat) (before : List Char) :
    partsFrom position before rest = [.plain (before ++ rest.flatMap ('[' :: ·))] := by
  induction rest generalizing position before with
  | nil => simp [partsFrom]
  | cons part rest ih =>
    obtain ⟨hpart, hrest⟩ := List.forall_mem_cons.1 h
    rw [partsFrom_of_none hpart, ih hrest]
    simp

/-- Either no part is taken for a tag, or what is read is shorter than the text. -/
theorem partsFrom_cases (position : Nat) (before : List Char) (rest : List (List Char)) :
    (∀ part ∈ rest, takeTag? part = none) ∨
      (plainText (partsFrom position before rest)).length <
        (before ++ rest.flatMap ('[' :: ·)).length := by
  induction rest generalizing position before with
  | nil => exact .inl nofun
  | cons part rest ih =>
    cases htake : takeTag? part with
    | none =>
      rw [partsFrom_of_none htake]
      have hwhole : before ++ (part :: rest).flatMap ('[' :: ·) =
          before ++ '[' :: part ++ rest.flatMap ('[' :: ·) := by simp
      rw [hwhole]
      exact (ih _ _).imp_left fun h => List.forall_mem_cons.2 ⟨htake, h⟩
    | some taken =>
      obtain ⟨body, after⟩ := taken
      obtain ⟨front, n, tag, rfl, hparts, htag⟩ :=
        exists_partsFrom_of_some position before rest htake
      obtain ⟨c, body', -, rfl, rfl⟩ := takeTag?_eq_some htake
      right
      have hrest : (plainText (partsFrom (position + 1 + (c :: (body' ++ ']' :: after)).length)
          after rest)).length ≤ (after ++ rest.flatMap ('[' :: ·)).length := by
        rcases ih (position + 1 + (c :: (body' ++ ']' :: after)).length) after with h | h
        · rw [partsFrom_of_forall h, plainText, List.flatMap_singleton]
          exact length_unescape_le _
        · exact h.le
      have hfront := length_unescape_le front
      have hslashes := length_unescape_le (List.replicate (n / 2) '\\')
      have htagText : (plainText [tag]).length + n / 2 < body'.length + 3 + n := by
        rcases htag with ⟨hodd, rfl⟩ | ⟨t, rfl⟩
        · have hbody := length_unescape_le ('[' :: (c :: body') ++ [']'])
          simp only [plainText, List.flatMap_singleton, List.length_append, List.length_cons,
            List.length_nil] at hbody ⊢
          omega
        · simp only [plainText, List.flatMap_singleton, List.length_nil]
          omega
      simp only [plainText, List.flatMap_cons, List.flatMap_nil, List.append_nil,
        List.length_append, List.length_replicate, List.length_cons, hparts] at *
      omega

theorem parts_eq (cs : List Char) : ∃ before rest, Text.splitOn '[' cs = before :: rest ∧
    cs = before ++ rest.flatMap ('[' :: ·) ∧ parts cs = partsFrom before.length before rest := by
  obtain ⟨before, rest, hsplit, hcs⟩ := Text.splitOn_eq_cons '[' cs
  exact ⟨before, rest, hsplit, hcs, by rw [parts, hsplit]⟩

theorem subset_of_mem_plainText {ps : List Part} {cs : List Char}
    (h : ∀ as, .plain as ∈ ps → as <:+: cs) : plainText ps ⊆ cs := by
  intro c hc
  obtain ⟨part, hpart, hc⟩ := List.mem_flatMap.1 hc
  cases part with
  | plain as => exact (h as hpart).subset ((unescape_sublist as).subset hc)
  | tag => cases hc

/-- What is read of a text without codes is no longer than the text, and shorter unless it is the
text itself. -/
theorem length_le_of_read {s : String} {t : List Char} (hcodes : ¬HasCode s.toList)
    (h : read s = .ok t) : t ⊆ s.toList ∧ t.length ≤ s.toList.length ∧
      (t.length = s.toList.length → IsLiteral s.toList) := by
  obtain ⟨before, rest, hsplit, hcs, hparts⟩ := parts_eq s.toList
  obtain ⟨t', hjoin, h⟩ := Stop.bind_eq_ok.1 h
  obtain ⟨-, -, h⟩ := Stop.bind_eq_ok.1 h
  cases h
  have hwithin : ∀ cs, .plain cs ∈ parts s.toList → cs <:+: s.toList := fun cs hmem => by
    rw [hparts] at hmem
    exact hcs ▸ isInfix_of_mem_partsFrom hmem
  rw [join_eq_ok (fun cs hmem hcode => hcodes (hcode.mono (hwithin cs hmem))) hjoin]
  refine ⟨subset_of_mem_plainText hwithin, ?_⟩
  rw [hparts]
  rcases partsFrom_cases before.length before rest with hnone | hless
  · rw [partsFrom_of_forall hnone, ← hcs, plainText, List.flatMap_singleton]
    refine ⟨length_unescape_le _, fun hlength => isLiteral_iff.2 ⟨?_, ?_⟩⟩
    · rw [hsplit]
      exact hnone
    · exact (unescape_sublist _).eq_of_length hlength
  · rw [← hcs] at hless
    exact ⟨hless.le, fun hlength => absurd hlength hless.ne⟩

theorem read_of_isLiteral {s : String} (hcodes : ¬HasCode s.toList) (h : IsLiteral s.toList) :
    read s = .ok s.toList := by
  obtain ⟨hnone, hescape⟩ := isLiteral_iff.1 h
  obtain ⟨before, rest, hsplit, hcs, hparts⟩ := parts_eq s.toList
  rw [hsplit, List.tail_cons] at hnone
  rw [partsFrom_of_forall hnone, ← hcs] at hparts
  have hplain : read s = .ok (Emoji.replace (unescape s.toList) ++ []) := by
    rw [read, hparts]
    rfl
  rw [hplain, List.append_nil, replace_unescape hcodes, hescape]

end Markup

end Console

end RuleReview
