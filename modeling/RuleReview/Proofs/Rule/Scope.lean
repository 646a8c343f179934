import RuleReview.Proofs.Rule.Match
import RuleReview.Proofs.Stop
import RuleReview.Proofs.Text.Case
import RuleReview.Rule.Load
import RuleReview.Analyzer

/-! Names of languages and the scopes of rules. The name that a text gives is a fixed point, so it
does not matter where a text is turned into the name: when rules are read, when they are matched,
or before an analysis is asked for. A scope that is read from data holds names, so that it covers a
text exactly if it covers all languages or holds the name that the text gives. A list of tags is read as
a set, unless it holds a tag for all languages and an entry that is of no use. -/

namespace RuleReview

namespace Language

/-! ### Names of languages -/

theorem toList_key (s : String) : (key s).toList = Text.lower (Text.trim s.toList) := by
  rw [key, Text.toLower, Text.strip, String.toList_ofList, String.toList_ofList]

theorem key_eq_empty {s : String} (h : Text.isBlankText s = true) : key s = "" := by
  rw [Text.isBlankText, List.all_eq_true] at h
  rw [← String.toList_inj, toList_key, Text.trim_eq_nil h]
  rfl

/-- A text that is not blank keeps its ends in small letters. -/
theorem isTrimmed_key {s : String} (h : Text.isBlankText s = false) :
    Text.IsTrimmed (key s).toList := by
  have hink : ∃ c ∈ s.toList, Text.isBlank c = false := by simpa [Text.isBlankText] using h
  rw [toList_key]
  exact (Text.isTrimmed_trim hink).lower

theorem key_key (s : String) : key (key s) = key s := by
  cases h : Text.isBlankText s with
  | true => rw [key_eq_empty h, key_eq_empty rfl]
  | false => rw [← String.toList_inj, toList_key, (isTrimmed_key h).trim_eq, toList_key,
      Text.lower_lower]

theorem isBlankText_key (s : String) : Text.isBlankText (key s) = Text.isBlankText s := by
  cases h : Text.isBlankText s with
  | true => rw [key_eq_empty h]; rfl
  | false =>
    obtain ⟨⟨c, hc, hfirst⟩, -⟩ := isTrimmed_key h
    rw [Text.isBlankText, List.all_eq_false]
    exact ⟨c, List.mem_of_mem_head? hc, by simpa using hfirst⟩

theorem normalize_eq (s : String) :
    normalize s = ((find? (key s)).map (·.name)).getD (key s) := by
  -- `rw [normalize]` is slow: the search in the table is evaluated for the equation
  delta normalize
  cases find? (key s) <;> rfl

theorem normalize_of_mem_names {name : String} (h : name ∈ names) : normalize name = name := by
  have hknown : ∀ name ∈ names, normalize name = name := by decide +kernel
  exact hknown name h

theorem normalize_cases (s : String) :
    normalize s ∈ names ∧ Text.isBlankText s = false ∨ normalize s = key s := by
  cases h : find? (key s) with
  | none => exact .inr (by rw [normalize_eq, h]; rfl)
  | some l =>
    have hname : normalize s = l.name := by rw [normalize_eq, h]; rfl
    have hempty : find? "" = none := by decide +kernel
    refine .inl ⟨?_, ?_⟩
    · rw [hname]
      exact List.mem_map_of_mem (List.mem_of_find?_eq_some h)
    · rw [← Bool.not_eq_true]
      intro hblank
      rw [key_eq_empty hblank, hempty] at h
      cases h

/-- The name of a name is the name. -/
theorem normalize_normalize (s : String) : normalize (normalize s) = normalize s := by
  rcases normalize_cases s with ⟨hname, -⟩ | hkey
  · exact normalize_of_mem_names hname
  · have hagain : normalize (key s) = normalize s := by
      rw [normalize_eq, normalize_eq, key_key]
    rw [hkey, hagain, hkey]

theorem isBlankText_normalize (s : String) :
    Text.isBlankText (normalize s) = Text.isBlankText s := by
  rcases normalize_cases s with ⟨hname, hblank⟩ | hkey
  · have hnames : ∀ name ∈ names, Text.isBlankText name = false := by decide
    rw [hnames _ hname, hblank]
  · rw [hkey, isBlankText_key]

/-- Instead of a hint the name that it gives may be handed in. -/
theorem resolve_normalize (code : List Char) (hint : String) (path : Option String)
    (fallback : String) :
    resolve code (some (normalize hint)) path fallback = resolve code (some hint) path fallback := by
  rw [resolve, resolve]
  simp only [isBlankText_normalize, normalize_normalize]

end Language

namespace Rule

open RuleReview.Language (normalize names)

/-! ### Scopes -/

namespace Scope

def tags : Scope → List String
  | .single tag => [tag]
  | .several tags => tags

/-- A scope of all languages, of one that goes by its name, or of some, each of them once. -/
def IsCanonical : Scope → Prop
  | .single tag => tag = everyLanguage ∨ tag ∈ names
  | .several tags => tags ≠ [] ∧ tags ⊆ names ∧ tags.Nodup

theorem covers_congr {l l' : String} (h : normalize l = normalize l') (s : Scope) :
    s.covers l = s.covers l' := by
  cases s <;> simp only [covers, h]

/-- A scope in which languages go by their names covers a text that gives one of the names. -/
theorem IsCanonical.covers_iff {s : Scope} (h : s.IsCanonical) (l : String) :
    s.covers l = true ↔ s = .single everyLanguage ∨ normalize l ∈ s.tags := by
  have hall : normalize everyLanguage = everyLanguage := by decide +kernel
  have hother : everyLanguage ∉ names := by decide
  cases s with
  | single tag =>
    have hfix : normalize tag = tag := by
      rcases h with rfl | hname
      · exact hall
      · exact Language.normalize_of_mem_names hname
    rw [covers, hfix, Bool.or_eq_true, beq_iff_eq, beq_iff_eq, single.injEq, tags,
      List.mem_singleton, @eq_comm _ tag (normalize l)]
  | several tags =>
    obtain ⟨-, hnames, -⟩ := h
    have hnone : everyLanguage ∉ tags := fun hmem => hother (hnames hmem)
    have hany : (∃ tag ∈ tags, normalize tag = normalize l) ↔ normalize l ∈ tags := by
      constructor
      · rintro ⟨tag, htag, heq⟩
        rwa [← heq, Language.normalize_of_mem_names (hnames htag)]
      · exact fun hmem => ⟨_, hmem, Language.normalize_normalize l⟩
    simp [covers, Scope.tags, hnone, hany]

end Scope

/-! ### Reading scopes -/

def givenTags : Data → List String
  | .text tag => [tag]
  | .list ds => ds.filterMap Data.text?
  | _ => []

theorem normalize_of_key {tag : String} (h : Language.key tag = everyLanguage) :
    normalize tag = everyLanguage := by
  have hnone : Language.find? everyLanguage = none := by decide
  rw [Language.normalize_eq, h, hnone]
  rfl

/-- Tags are read to their end, or up to the one for all languages. -/
theorem readTags_eq_ok {found : List String} {ds : List Data} {r : Option (List String)}
    (h : readTags found ds = .ok r) :
    (r = none ∧ ∃ tag, .text tag ∈ ds ∧ Language.key tag = everyLanguage) ∨
      ∃ tags : List String, ds = tags.map .text ∧ (∀ tag ∈ tags, normalize tag ∈ names) ∧
        r = some ((tags.map normalize).reverse ++ found) := by
  induction ds generalizing found with
  | nil =>
    cases h
    exact .inr ⟨[], rfl, nofun, rfl⟩
  | cons d ds ih =>
    cases d with
    | text tag =>
      rw [readTags] at h
      split at h
      next hall =>
        cases h
        exact .inl ⟨rfl, tag, List.mem_cons_self, hall⟩
      next =>
        split at h
        next => cases h
        next hknown =>
          rcases ih h with ⟨rfl, tag', htag', hall⟩ | ⟨tags, rfl, htags, rfl⟩
          · exact .inl ⟨rfl, tag', List.mem_cons_of_mem _ htag', hall⟩
          · have htag : normalize tag ∈ names := by simpa [Language.isKnown] using hknown
            exact .inr ⟨tag :: tags, rfl, List.forall_mem_cons.2 ⟨htag, htags⟩, by simp⟩
    | _ => cases h

theorem scopeOf_single {name : String} (h : name ∈ names) :
    scopeOf true (some [name]) = .single name := by
  have hmem : name ∈ (names.mergeSort fun a b => decide (a ≤ b)).filter [name].contains :=
    List.mem_filter.2 ⟨List.mem_mergeSort.2 h, by simp⟩
  rw [scopeOf, if_pos rfl]
  refine congrArg Scope.single ?_
  cases hknown : (names.mergeSort fun a b => decide (a ≤ b)).filter [name].contains with
  | nil =>
    rw [hknown] at hmem
    cases hmem
  | cons first rest =>
    have hfirst := List.mem_filter.1 (hknown ▸ List.mem_cons_self : first ∈ _)
    simpa using hfirst.2

theorem mem_tags_scopeOf {tags : List String} {name : String} :
    name ∈ (scopeOf false (some tags)).tags ↔ name ∈ names ∧ name ∈ tags := by
  simp [scopeOf, Scope.tags]

theorem isCanonical_scopeOf {tags : List String} (hne : tags ≠ [])
    (h : ∀ tag ∈ tags, tag ∈ names) : (scopeOf false (some tags)).IsCanonical := by
  obtain ⟨tag, rest, rfl⟩ := List.exists_cons_of_ne_nil hne
  have hmem : tag ∈ (scopeOf false (some (tag :: rest))).tags :=
    mem_tags_scopeOf.2 ⟨h tag List.mem_cons_self, List.mem_cons_self⟩
  have hnodup : (names.mergeSort fun a b => decide (a ≤ b)).Nodup :=
    (List.mergeSort_perm _ _).nodup_iff.2 (by decide)
  exact ⟨List.ne_nil_of_mem hmem, fun name hname => (mem_tags_scopeOf.1 hname).1, hnodup.filter _⟩

/-- What reading makes of the tags that a value gives. -/
structure Resolves (given : List String) (s : Scope) : Prop where
  canonical : s.IsCanonical
  given_of_tag : ∀ name ∈ s.tags, ∃ tag ∈ given, normalize tag = name
  tag_of_given : s = .single everyLanguage ∨ ∀ tag ∈ given, normalize tag ∈ s.tags

theorem resolves_every {given : List String} {tag : String} (htag : tag ∈ given)
    (h : Language.key tag = everyLanguage) : Resolves given (.single everyLanguage) where
  canonical := .inl rfl
  given_of_tag name hname := ⟨tag, htag, by
    rw [normalize_of_key h, List.mem_singleton.1 hname]⟩
  tag_of_given := .inl rfl

theorem givenTags_list (tags : List String) : givenTags (.list (tags.map .text)) = tags := by
  rw [givenTags, List.filterMap_map]
  exact List.filterMap_some

/-- A scope that is read holds the names that the tags give. -/
theorem resolves_readScope {d : Data} {s : Scope} (h : readScope d = .ok s) :
    Resolves (givenTags d) s := by
  rw [readScope.eq_def] at h
  split at h
  next tag =>
    obtain ⟨r, hr, rfl⟩ := Stop.map_eq_ok.1 h
    rcases readTags_eq_ok hr with ⟨rfl, tag', htag', hall⟩ | ⟨tags, heq, htags, rfl⟩
    · obtain rfl : tag' = tag := by simpa using htag'
      exact resolves_every List.mem_cons_self hall
    · obtain rfl : tags = [tag] := by
        have hgiven := congrArg (fun ds => givenTags (.list ds)) heq
        rw [givenTags_list] at hgiven
        exact hgiven.symm
      have hname := htags tag List.mem_cons_self
      rw [List.map_singleton, List.reverse_singleton, List.append_nil, scopeOf_single hname]
      exact ⟨.inr hname, fun name hmem => ⟨tag, List.mem_cons_self, (List.mem_singleton.1 hmem).symm⟩,
        .inr fun tag' htag' => by rw [List.mem_singleton.1 htag']; exact List.mem_cons_self⟩
  next x xs =>
    obtain ⟨r, hr, rfl⟩ := Stop.map_eq_ok.1 h
    rcases readTags_eq_ok hr with ⟨rfl, tag, htag, hall⟩ | ⟨tags, heq, htags, rfl⟩
    · have hgiven : tag ∈ givenTags (.list (x :: xs)) := List.mem_filterMap.2 ⟨_, htag, rfl⟩
      exact resolves_every hgiven hall
    · rw [heq, givenTags_list, List.append_nil]
      have hnames : ∀ name ∈ (tags.map normalize).reverse, name ∈ names := by simpa using htags
      have hne : (tags.map normalize).reverse ≠ [] := by
        rintro hnil
        simp [show tags = [] by simpa using hnil] at heq
      refine ⟨isCanonical_scopeOf hne hnames, fun name hmem => ?_, .inr fun tag htag => ?_⟩
      · simpa using (mem_tags_scopeOf.1 hmem).2
      · exact mem_tags_scopeOf.2 ⟨htags tag htag, by simpa using ⟨tag, htag, rfl⟩⟩
  next => cases h

/-- A rule has the scope that its value for languages gives, that of all where it has none. -/
theorem readScope_of_read {d : Data} {r : Rule} (h : read d = .ok r) :
    readScope ((d.get? "language").getD (.text everyLanguage)) = .ok r.scope := by
  rw [read] at h
  rw [Data.get?]
  split at h
  next members hmembers =>
    rw [hmembers, Option.bind_some]
    split at h
    next source =>
      obtain ⟨p, -, h⟩ := Stop.bind_eq_ok.1 h
      split at h
      next description =>
        split at h
        next s hs =>
          cases h
          exact hs
        next => cases h
      next => cases h
    next => cases h
  next => cases h

/-! ### Lists of tags as sets -/

def IsForAll (d : Data) : Prop := ∃ tag, d = .text tag ∧ Language.key tag = everyLanguage

def IsForOne (d : Data) : Prop := ∃ tag, d = .text tag ∧ normalize tag ∈ names

/-- An entry that is of no use as a tag. -/
def IsUseless (d : Data) : Prop := ¬ IsForAll d ∧ ¬ IsForOne d

/-- Whether the first entry of a list that is not for one language is of some sort. -/
def Leads (p : Data → Prop) (ds : List Data) : Prop :=
  ∃ front d back, ds = front ++ d :: back ∧ (∀ d ∈ front, IsForOne d) ∧ p d

theorem IsForAll.not_isForOne {d : Data} (h : IsForAll d) : ¬ IsForOne d := by
  rintro ⟨tag, rfl, hname⟩
  obtain ⟨_, htag, hall⟩ := h
  cases htag
  rw [normalize_of_key hall] at hname
  exact absurd hname (by decide)

theorem readTags_cons_of_isForAll {d : Data} (h : IsForAll d) (found : List String)
    (ds : List Data) : readTags found (d :: ds) = .ok none := by
  obtain ⟨tag, rfl, hall⟩ := h
  rw [readTags, if_pos hall]

theorem readTags_cons_of_isForOne {tag : String} (h : normalize tag ∈ names)
    (found : List String) (ds : List Data) :
    readTags found (.text tag :: ds) = readTags (normalize tag :: found) ds := by
  have hone : Language.key tag ≠ everyLanguage := fun hall =>
    IsForAll.not_isForOne ⟨tag, rfl, hall⟩ ⟨tag, rfl, h⟩
  rw [readTags, if_neg hone, if_neg (by simpa [Language.isKnown] using h)]

theorem readTags_cons_of_isUseless {d : Data} (h : IsUseless d) (found : List String)
    (ds : List Data) : ∃ e, readTags found (d :: ds) = .error e := by
  cases d with
  | text tag =>
    rw [readTags, if_neg fun hall => h.1 ⟨tag, rfl, hall⟩, if_pos]
    · exact ⟨_, rfl⟩
    · simpa [Language.isKnown] using fun hname => h.2 ⟨tag, rfl, hname⟩
  | _ => exact ⟨_, rfl⟩

theorem exists_tags {ds : List Data} (h : ∀ d ∈ ds, IsForOne d) :
    ∃ tags : List String, ds = tags.map .text ∧ ∀ tag ∈ tags, normalize tag ∈ names := by
  induction ds with
  | nil => exact ⟨[], rfl, nofun⟩
  | cons d ds ih =>
    obtain ⟨⟨tag, rfl, htag⟩, hds⟩ := List.forall_mem_cons.1 h
    obtain ⟨tags, rfl, htags⟩ := ih hds
    exact ⟨tag :: tags, rfl, List.forall_mem_cons.2 ⟨htag, htags⟩⟩

/-- Tags for single languages are all read before what follows them. -/
theorem readTags_append {tags : List String} (h : ∀ tag ∈ tags, normalize tag ∈ names)
    (found : List String) (ds : List Data) :
    readTags found (tags.map .text ++ ds) = readTags ((tags.map normalize).reverse ++ found) ds := by
  induction tags generalizing found with
  | nil => rfl
  | cons tag tags ih =>
    obtain ⟨htag, htags⟩ := List.forall_mem_cons.1 h
    rw [List.map_cons, List.cons_append, readTags_cons_of_isForOne htag, ih htags]
    simp

theorem forall_or_leads (ds : List Data) :
    (∀ d ∈ ds, IsForOne d) ∨ Leads IsForAll ds ∨ Leads IsUseless ds := by
  induction ds with
  | nil => exact .inl nofun
  | cons d ds ih =>
    by_cases hone : IsForOne d
    · have hstep {p : Data → Prop} : Leads p ds → Leads p (d :: ds) := by
        rintro ⟨front, d', back, rfl, hfront, hd'⟩
        exact ⟨d :: front, d', back, rfl, List.forall_mem_cons.2 ⟨hone, hfront⟩, hd'⟩
      exact ih.imp (fun h => List.forall_mem_cons.2 ⟨hone, h⟩) (Or.imp hstep hstep)
    · by_cases hall : IsForAll d
      · exact .inr (.inl ⟨[], d, ds, rfl, nofun, hall⟩)
      · exact .inr (.inr ⟨[], d, ds, rfl, nofun, hall, hone⟩)

/-! The outcome of a list, in the three cases. -/

theorem readScope_list {ds : List Data} (h : ds ≠ []) :
    readScope (.list ds) = (readTags [] ds).map (scopeOf false) := by
  obtain ⟨d, ds, rfl⟩ := List.exists_cons_of_ne_nil h
  rfl

theorem Leads.ne_nil {p : Data → Prop} {ds : List Data} (h : Leads p ds) : ds ≠ [] := by
  obtain ⟨front, d, back, rfl, -, -⟩ := h
  simp

theorem Leads.toOption_eq_some {ds : List Data} (h : Leads IsForAll ds) :
    (readScope (.list ds)).toOption = some (.single everyLanguage) := by
  rw [readScope_list h.ne_nil]
  obtain ⟨front, d, back, rfl, hfront, hd⟩ := h
  obtain ⟨tags, rfl, htags⟩ := exists_tags hfront
  rw [readTags_append htags, readTags_cons_of_isForAll hd]
  rfl

theorem Leads.toOption_eq_none {ds : List Data} (h : Leads IsUseless ds) :
    (readScope (.list ds)).toOption = none := by
  rw [readScope_list h.ne_nil]
  obtain ⟨front, d, back, rfl, hfront, hd⟩ := h
  obtain ⟨tags, rfl, htags⟩ := exists_tags hfront
  obtain ⟨e, he⟩ := readTags_cons_of_isUseless hd ((tags.map normalize).reverse ++ []) back
  rw [readTags_append htags, he]
  rfl

/-- The names that tags give, in the order of the names of languages. -/
def namesIn (ds : List Data) : List String :=
  (names.mergeSort fun a b => decide (a ≤ b)).filter fun name =>
    (givenTags (.list ds)).any fun tag => normalize tag == name

theorem readScope_of_forall {ds : List Data} (hne : ds ≠ []) (h : ∀ d ∈ ds, IsForOne d) :
    readScope (.list ds) = .ok (.several (namesIn ds)) := by
  rw [readScope_list hne]
  obtain ⟨tags, rfl, htags⟩ := exists_tags h
  have hread := readTags_append htags [] []
  rw [List.append_nil] at hread
  have htold : (((tags.map normalize).reverse ++ []).contains : String → Bool) =
      fun name => tags.any fun tag => normalize tag == name := by
    funext name
    rw [Bool.eq_iff_iff]
    simp
  rw [hread, namesIn, givenTags_list, ← htold]
  rfl

/-- Lists with the same entries, in any order and any of them any number of times. -/
def SameEntries (ds ds' : List Data) : Prop := ∀ d, d ∈ ds ↔ d ∈ ds'

theorem namesIn_congr {ds ds' : List Data} (h : SameEntries ds ds') : namesIn ds = namesIn ds' := by
  rw [namesIn, namesIn]
  congr 1
  funext name
  rw [Bool.eq_iff_iff]
  simp only [givenTags, List.any_eq_true, List.mem_filterMap, h _]

theorem toOption_readScope_of_isForAll {ds : List Data} {d : Data} (hd : d ∈ ds)
    (hall : IsForAll d) (h : ∀ d ∈ ds, ¬ IsUseless d) :
    (readScope (.list ds)).toOption = some (.single everyLanguage) := by
  rcases forall_or_leads ds with hone | hleads | ⟨front, d', back, rfl, -, huseless⟩
  · exact absurd (hone d hd) hall.not_isForOne
  · exact hleads.toOption_eq_some
  · exact absurd huseless (h d' (by simp))

theorem toOption_readScope_of_isUseless {ds : List Data} {d : Data} (hd : d ∈ ds)
    (huseless : IsUseless d) (h : ∀ d ∈ ds, ¬ IsForAll d) :
    (readScope (.list ds)).toOption = none := by
  rcases forall_or_leads ds with hone | ⟨front, d', back, rfl, -, hall⟩ | hleads
  · exact absurd (hone d hd) huseless.2
  · exact absurd hall (h d' (by simp))
  · exact hleads.toOption_eq_none

theorem toOption_readScope_of_forall {ds : List Data} (h : ∀ d ∈ ds, IsForOne d) :
    (readScope (.list ds)).toOption = if ds = [] then none else some (.several (namesIn ds)) := by
  split
  next hnil => rw [hnil]; rfl
  next hne => rw [readScope_of_forall hne h]; rfl

/-- Entries of which none is for all languages, or none is of no use, are read as a set. -/
theorem toOption_readScope_congr {ds ds' : List Data} (h : SameEntries ds ds')
    (hfree : ¬ ((∃ d ∈ ds, IsForAll d) ∧ ∃ d ∈ ds, IsUseless d)) :
    (readScope (.list ds')).toOption = (readScope (.list ds)).toOption := by
  by_cases hall : ∃ d ∈ ds, IsForAll d
  · have huseful : ∀ d ∈ ds, ¬ IsUseless d := fun d hd huseless =>
      hfree ⟨hall, d, hd, huseless⟩
    obtain ⟨d, hd, hall⟩ := hall
    rw [toOption_readScope_of_isForAll hd hall huseful,
      toOption_readScope_of_isForAll ((h d).1 hd) hall fun d hd => huseful d ((h d).2 hd)]
  · have hnone : ∀ d ∈ ds, ¬ IsForAll d := fun d hd hd' => hall ⟨d, hd, hd'⟩
    by_cases huseless : ∃ d ∈ ds, IsUseless d
    · obtain ⟨d, hd, huseless⟩ := huseless
      rw [toOption_readScope_of_isUseless hd huseless hnone,
        toOption_readScope_of_isUseless ((h d).1 hd) huseless fun d hd => hnone d ((h d).2 hd)]
    · have hone : ∀ d ∈ ds, IsForOne d := fun d hd =>
        by_contra fun hd' => huseless ⟨d, hd, hnone d hd, hd'⟩
      have hnil : ds = [] ↔ ds' = [] := by
        rw [List.eq_nil_iff_forall_not_mem, List.eq_nil_iff_forall_not_mem]
        exact forall_congr' fun d => not_congr (h d)
      rw [toOption_readScope_of_forall hone, namesIn_congr h,
        toOption_readScope_of_forall fun d hd => hone d ((h d).2 hd)]
      simp only [hnil]

theorem toOption_readScope_eq_none_iff (ds : List Data) :
    (readScope (.list ds)).toOption = none ↔ ds = [] ∨ Leads IsUseless ds := by
  constructor
  · intro h
    rcases forall_or_leads ds with hone | hall | huseless
    · by_cases hnil : ds = []
      · exact .inl hnil
      · rw [toOption_readScope_of_forall hone, if_neg hnil] at h
        cases h
    · rw [hall.toOption_eq_some] at h
      cases h
    · exact .inr huseless
  · rintro (rfl | huseless)
    · rfl
    · exact huseless.toOption_eq_none

theorem toOption_readScope_eq_some_iff (ds : List Data) (s : Scope) :
    (readScope (.list ds)).toOption = some s ↔
      Leads IsForAll ds ∧ s = .single everyLanguage ∨
        ds ≠ [] ∧ (∀ d ∈ ds, IsForOne d) ∧ s = .several (namesIn ds) := by
  constructor
  · intro h
    rcases forall_or_leads ds with hone | hall | huseless
    · rw [toOption_readScope_of_forall hone] at h
      split at h
      next => cases h
      next hne => exact .inr ⟨hne, hone, (Option.some.inj h).symm⟩
    · rw [hall.toOption_eq_some] at h
      exact .inl ⟨hall, (Option.some.inj h).symm⟩
    · rw [huseless.toOption_eq_none] at h
      cases h
  · rintro (⟨hall, rfl⟩ | ⟨hne, hone, rfl⟩)
    · exact hall.toOption_eq_some
    · rw [toOption_readScope_of_forall hone, if_neg hne]

/-- A list is read as the set of its entries, unless one for all languages stands beside one that
is of no use: of these the one that comes first decides. -/
theorem readScope_of_sameEntries_iff (ds : List Data) :
    ((∀ ds', SameEntries ds ds' →
        (readScope (.list ds')).toOption = (readScope (.list ds)).toOption) ↔
      ¬ ((∃ d ∈ ds, IsForAll d) ∧ ∃ d ∈ ds, IsUseless d)) ∧
    ((readScope (.list ds)).toOption = none ↔ ds = [] ∨ Leads IsUseless ds) ∧
    ∀ s, (readScope (.list ds)).toOption = some s ↔
      Leads IsForAll ds ∧ s = .single everyLanguage ∨
        ds ≠ [] ∧ (∀ d ∈ ds, IsForOne d) ∧ s = .several (namesIn ds) := by
  refine ⟨⟨?_, fun hfree ds' h => toOption_readScope_congr h hfree⟩,
    toOption_readScope_eq_none_iff ds, toOption_readScope_eq_some_iff ds⟩
  rintro h ⟨⟨d, hd, hall⟩, d', hd', huseless⟩
  have hfirst {d : Data} (hd : d ∈ ds) : SameEntries ds (d :: ds) := by
    intro d''
    rw [List.mem_cons]
    exact ⟨.inr, fun h => h.elim (fun heq => heq ▸ hd) id⟩
  -- either of the two entries is put in front, and decides
  have hallFirst : Leads IsForAll (d :: ds) := ⟨[], d, ds, rfl, nofun, hall⟩
  have huselessFirst : Leads IsUseless (d' :: ds) := ⟨[], d', ds, rfl, nofun, huseless⟩
  have hboth := hallFirst.toOption_eq_some.symm.trans ((h _ (hfirst hd)).trans
    ((h _ (hfirst hd')).symm.trans huselessFirst.toOption_eq_none))
  cases hboth

/-- Two entries of which the one that comes first decides. -/
theorem readScope_of_swapped :
    List.Perm [Data.text "all", .text "klingon"] [.text "klingon", .text "all"] ∧
      readScope (.list [.text "all", .text "klingon"]) = .ok (.single everyLanguage) ∧
      readScope (.list [.text "klingon", .text "all"]) = .error (.unknownLanguage "klingon") := by
  have hall : Language.key "all" = everyLanguage := by decide +kernel
  have hother : Language.key "klingon" ≠ everyLanguage ∧ Language.isKnown "klingon" = false := by
    decide +kernel
  refine ⟨.swap _ _ _, ?_, ?_⟩
  · rw [readScope, readTags, if_pos hall]
    rfl
  · rw [readScope, readTags, if_neg hother.1, hother.2]
    rfl

/-! ### Collections and analyses -/

theorem Collection.issues_congr {l l' : String} (h : normalize l = normalize l')
    (col : Collection) (code : List Char) : col.issues l code = col.issues l' code := by
  have hcovers : (fun r : Rule => r.scope.covers l) = fun r => r.scope.covers l' :=
    funext fun r => Scope.covers_congr h r.scope
  have hcategory (lines : List Pattern.Line) :
      col.issuesOfCategory l lines = col.issuesOfCategory l' lines := by
    funext c
    rw [issuesOfCategory, hcovers, issuesOfCategory]
  rw [issues, hcategory, issues]

end Rule

theorem Analyzer.analyze_normalize (a : Analyzer) (code : List Char) (hint : String)
    (path : Option String) (extra : List Issue) :
    a.analyze code (some (Language.normalize hint)) path extra =
      a.analyze code (some hint) path extra := by
  rw [analyze, Language.resolve_normalize, analyze]

/-- Languages are compared by their names. A rule that is read has the scope that its value for
languages gives. A scope that is read from a value is that of all languages, or has the names of the
tags that the value gives; it covers a text exactly if it is that of all languages or has the name
that the text gives. The name of a name is the name, so texts that give the same name select the
same rules, and a name may be handed in for what gives it. -/
theorem languages_by_name :
    (∀ (d : Data) (r : Rule), Rule.read d = .ok r →
      Rule.readScope ((d.get? "language").getD (.text Rule.everyLanguage)) = .ok r.scope) ∧
    (∀ (d : Data) (s : Rule.Scope), Rule.readScope d = .ok s →
      Rule.Resolves (Rule.givenTags d) s ∧
      ∀ l, s.covers l = true ↔
        s = .single Rule.everyLanguage ∨ Language.normalize l ∈ s.tags) ∧
    (∀ l, Language.normalize (Language.normalize l) = Language.normalize l) ∧
    (∀ l l', Language.normalize l = Language.normalize l' →
      (∀ s : Rule.Scope, s.covers l = s.covers l') ∧
      ∀ (col : Rule.Collection) (code : List Char), col.issues l code = col.issues l' code) ∧
    ∀ (a : Analyzer) (code : List Char) (hint : String) (path : Option String)
      (extra : List Issue), a.analyze code (some (Language.normalize hint)) path extra =
        a.analyze code (some hint) path extra := by
  refine ⟨fun d r => Rule.readScope_of_read, fun d s hs => ?_, Language.normalize_normalize,
    fun l l' hl => ?_, Analyzer.analyze_normalize⟩
  · have hresolves := Rule.resolves_readScope hs
    exact ⟨hresolves, hresolves.canonical.covers_iff⟩
  · exact ⟨Rule.Scope.covers_congr hl, fun col code => col.issues_congr hl code⟩

/-- Other names of languages, one language twice. -/
def otherNames : List String := [" C# ", "Python3", "cs"]

theorem languages_by_name_otherNames :
    ∃ s, Rule.readScope (.list (otherNames.map .text)) = .ok s ∧ Rule.Resolves otherNames s ∧
      Language.normalize "C-Sharp" = Language.normalize "DotNet\n" ∧
      s.covers "C-Sharp" = true ∧ s.covers "DotNet\n" = true ∧ s.covers "PY" = true := by
  have htags : Rule.readTags [] (otherNames.map .text) = .ok (some ["csharp", "python", "csharp"]) := by
    decide +kernel
  have hread : Rule.readScope (.list (otherNames.map .text)) =
      .ok (Rule.scopeOf false (some ["csharp", "python", "csharp"])) := by
    change (Rule.readTags [] (otherNames.map .text)).map (Rule.scopeOf false) = _
    rw [htags]
    rfl
  have hsame : Language.normalize "C-Sharp" = Language.normalize "DotNet\n" := by decide +kernel
  have hnames : Language.normalize "C-Sharp" = "csharp" ∧ Language.normalize "PY" = "python" := by
    decide +kernel
  obtain ⟨-, hscopes, -, hspellings, -⟩ := languages_by_name
  obtain ⟨hresolves, hcovers⟩ := hscopes _ _ hread
  have hsharp : (Rule.scopeOf false (some ["csharp", "python", "csharp"])).covers "C-Sharp" = true :=
    (hcovers _).2 (.inr (by rw [hnames.1]; exact Rule.mem_tags_scopeOf.2 (by decide)))
  refine ⟨_, hread, ?_, hsame, hsharp, ((hspellings _ _ hsame).1 _).symm.trans hsharp,
    (hcovers _).2 (.inr ?_)⟩
  · rwa [Rule.givenTags_list] at hresolves
  · rw [hnames.2]
    exact Rule.mem_tags_scopeOf.2 (by decide)

end RuleReview
