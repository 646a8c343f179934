import RuleReview.Proofs.Config.Readers
import RuleReview.Proofs.Toml.Keys
import RuleReview.Rule.Source
import Mathlib.Data.List.Nodup

/-! Configurations that are accepted are coherent: each value is in its range, values agree
with each other, and the sources that are made of them have different names. -/

namespace RuleReview

namespace Config

variable {project : Path} {t : Table} {c : Config}

/-- What holds between the values of a configuration. -/
structure Coherent (c : Config) : Prop where
  language : c.defaultLanguage ∈ Language.names
  sources : c.rules.sources ⊆ builtinSources
  extraNames : (c.rules.extra.map Prod.fst).Nodup
  extraFree : ∀ source ∈ c.rules.extra, source.1 ∉ builtinSources
  extraPaths : ∀ source ∈ c.rules.extra, Text.IsTrimmed source.2.toList
  kinds : c.rules.extraKinds.map Prod.fst ⊆ c.rules.extra.map Prod.fst
  counts : 0 < c.metrics.complexityHigh ∧ 0 < c.metrics.complexityCritical ∧
    0 < c.metrics.functionLength ∧ 0 < c.metrics.nestingDepth ∧ 0 < c.metrics.commentMinLines ∧
    0 < c.comments.maxComments
  order : c.metrics.complexityHigh ≤ c.metrics.complexityCritical
  ratios : (0 ≤ c.metrics.duplicationRatio ∧ c.metrics.duplicationRatio ≤ 1) ∧
    0 ≤ c.metrics.commentRatio ∧ c.metrics.commentRatio ≤ 1

/-! ### The parts of an accepted table -/

def sourceList (t : Table) : Option Data :=
  Data.lookup "sources" (membersOf (Data.lookup "rules" t))

/-- The members of a table that name further sources. -/
def extraMembers (t : Table) : Table :=
  membersOf (Data.lookup "extra" (membersOf (Data.lookup "rules" t)))

/-- The members of a table that tell kinds of sources. -/
def kindMembers (t : Table) : Table :=
  membersOf (option? "extra-kinds" (membersOf (Data.lookup "rules" t)))

theorem ofTable_eq_ok (h : ofTable project t = .ok c) :
    readLanguage t = .ok c.defaultLanguage ∧ readRules (Data.lookup "rules" t) = .ok c.rules ∧
      readMetrics (Data.lookup "metrics" t) = .ok c.metrics ∧
      readComments (Data.lookup "github" t) = .ok c.comments ∧ c.project = project := by
  obtain ⟨language, hlanguage, h⟩ := Stop.bind_eq_ok.1 h
  obtain ⟨rules, hrules, h⟩ := Stop.bind_eq_ok.1 h
  obtain ⟨metrics, hmetrics, h⟩ := Stop.bind_eq_ok.1 h
  obtain ⟨comments, hcomments, h⟩ := Stop.bind_eq_ok.1 h
  obtain ⟨linters, -, h⟩ := Stop.bind_eq_ok.1 h
  cases h
  exact ⟨hlanguage, hrules, hmetrics, hcomments, rfl⟩

theorem readRules_eq_ok {r : Rules} (h : readRules (Data.lookup "rules" t) = .ok r) :
    readSources (sourceList t) = .ok r.sources ∧ readExtra (extraMembers t) = .ok r.extra ∧
      readKinds r.extra (kindMembers t) = .ok r.extraKinds := by
  obtain ⟨members, hmembers, h⟩ := Stop.bind_eq_ok.1 h
  obtain rfl := section_eq_ok hmembers
  obtain ⟨sources, hsources, h⟩ := Stop.bind_eq_ok.1 h
  obtain ⟨members, hmembers, h⟩ := Stop.bind_eq_ok.1 h
  obtain rfl := section_eq_ok hmembers
  obtain ⟨extra, hextra, h⟩ := Stop.bind_eq_ok.1 h
  obtain ⟨members, hmembers, h⟩ := Stop.bind_eq_ok.1 h
  obtain rfl := section_eq_ok hmembers
  obtain ⟨kinds, hkinds, h⟩ := Stop.bind_eq_ok.1 h
  cases h
  exact ⟨hsources, hextra, hkinds⟩

theorem ratios_default : ((0 : Rat) ≤ Decimal.nearest (1 / 10) ∧ Decimal.nearest (1 / 10) ≤ 1) ∧
    0 ≤ Decimal.nearest (5 / 100) ∧ Decimal.nearest (5 / 100) ≤ 1 := by
  decide +kernel

theorem readMetrics_eq_ok {d : Option Data} {m : Thresholds} (h : readMetrics d = .ok m) :
    (0 < m.complexityHigh ∧ 0 < m.complexityCritical ∧ 0 < m.functionLength ∧
      0 < m.nestingDepth ∧ 0 < m.commentMinLines) ∧
    m.complexityHigh ≤ m.complexityCritical ∧
    (0 ≤ m.duplicationRatio ∧ m.duplicationRatio ≤ 1) ∧
    0 ≤ m.commentRatio ∧ m.commentRatio ≤ 1 := by
  obtain ⟨members, -, h⟩ := Stop.bind_eq_ok.1 h
  obtain ⟨high, hhigh, h⟩ := Stop.bind_eq_ok.1 h
  obtain ⟨critical, hcritical, h⟩ := Stop.bind_eq_ok.1 h
  dsimp only at h
  split at h
  next => cases h
  next horder =>
    obtain ⟨length, hlength, h⟩ := Stop.bind_eq_ok.1 h
    obtain ⟨depth, hdepth, h⟩ := Stop.bind_eq_ok.1 h
    obtain ⟨duplication, hduplication, h⟩ := Stop.bind_eq_ok.1 h
    obtain ⟨comment, hcomment, h⟩ := Stop.bind_eq_ok.1 h
    obtain ⟨lines, hlines, h⟩ := Stop.bind_eq_ok.1 h
    cases h
    exact ⟨⟨readCount_pos (by decide) hhigh, readCount_pos (by decide) hcritical,
        readCount_pos (by decide) hlength, readCount_pos (by decide) hdepth,
        readCount_pos (by decide) hlines⟩,
      Nat.le_of_not_lt horder, readRatio_bounds ratios_default.1 hduplication,
      readRatio_bounds ratios_default.2 hcomment⟩

theorem readComments_eq_ok {d : Option Data} {r : Comments} (h : readComments d = .ok r) :
    0 < r.maxComments := by
  obtain ⟨members, -, h⟩ := Stop.bind_eq_ok.1 h
  obtain ⟨most, hmost, h⟩ := Stop.bind_eq_ok.1 h
  obtain ⟨headers, -, h⟩ := Stop.bind_eq_ok.1 h
  cases h
  exact readCount_pos (by decide) hmost

/-- In a table whose parts have each key once, so has what is given for a key. -/
theorem isKeyed_membersOf {key : String} {ms : Table} (h : Data.IsKeyed (.object ms)) :
    Data.IsKeyed (.object (membersOf (Data.lookup key ms))) := by
  rw [membersOf]
  cases hgiven : Data.lookup key ms with
  | none => exact .object List.nodup_nil nofun
  | some d =>
    have hd := h.lookup hgiven
    cases d with
    | object inner => exact hd
    | _ => exact .object List.nodup_nil nofun

theorem coherent_ofTable (hkeys : Data.IsKeyed (.object t)) (h : ofTable project t = .ok c) :
    c.Coherent := by
  obtain ⟨hlanguage, hrules, hmetrics, hcomments, -⟩ := ofTable_eq_ok h
  obtain ⟨hsources, hextra, hkinds⟩ := readRules_eq_ok hrules
  obtain ⟨⟨hhigh, hcritical, hlength, hdepth, hlines⟩, horder, hratios⟩ :=
    readMetrics_eq_ok hmetrics
  obtain ⟨hmembers, hmap⟩ := readExtra_eq_ok hextra
  have hkeyed : Data.IsKeyed (.object (extraMembers t)) :=
    isKeyed_membersOf (isKeyed_membersOf hkeys)
  refine ⟨readLanguage_mem hlanguage, readSources_subset hsources, ?_, ?_, ?_, ?_,
    ⟨hhigh, hcritical, hlength, hdepth, hlines, readComments_eq_ok hcomments⟩, horder, hratios⟩
  · rw [keys_of_readExtra hextra]
    exact (Data.isKeyed_object.1 hkeyed).1
  · rw [hmap, List.forall_mem_map]
    exact fun m hm => (hmembers m hm).1
  · rw [hmap, List.forall_mem_map]
    exact fun m hm => (hmembers m hm).isTrimmed
  · obtain ⟨hsub, hkindsMap⟩ := readKinds_eq_ok hkinds
    rw [hkindsMap, List.map_map]
    exact hsub

/-! ### The sources of an accepted table -/

theorem lookup_map_kindOf (name : String) (ms : Table) :
    (ms.map fun m => (m.1, kindOf m.2)).lookup name = (Data.lookup name ms).map kindOf := by
  induction ms with
  | nil => rfl
  | cons m ms ih =>
    obtain ⟨key, d⟩ := m
    rw [List.map_cons, List.lookup_cons, Data.lookup, ih]
    by_cases hkey : key = name
    · simp [hkey]
    · simp [hkey, beq_eq_false_iff_ne.2 (Ne.symm hkey)]

/-- The source of a member of a table that names a further one. -/
def sourceOf (project : Path) (t : Table) (m : String × Data) : Rule.Source where
  name := m.1
  location := .file (project.join (Path.ofString (extraOf m).2))
  kind := ((Data.lookup m.1 (kindMembers t)).map kindOf).getD .quality

theorem names_builtin : Rule.Source.builtin.map Rule.Source.name = builtinSources := rfl

/-- The sources of a configuration are the built-in ones that its table enables, in their own
order, and then the further ones in the order of the table. -/
theorem ofConfig_eq (h : ofTable project t = .ok c) :
    Rule.Source.ofConfig c = (Rule.Source.builtin.filter fun s => enables (sourceList t) s.name) ++
      (extraMembers t).map (sourceOf project t) := by
  obtain ⟨-, hrules, -, -, hproject⟩ := ofTable_eq_ok h
  obtain ⟨hsources, hextra, hkinds⟩ := readRules_eq_ok hrules
  have henabled : ∀ s ∈ Rule.Source.builtin,
      c.rules.sources.contains s.name = enables (sourceList t) s.name := by
    intro s hs
    exact contains_of_readSources hsources (names_builtin ▸ List.mem_map_of_mem hs)
  rw [Rule.Source.ofConfig, List.filter_congr henabled, (readExtra_eq_ok hextra).2,
    (readKinds_eq_ok hkinds).2, hproject, List.map_map]
  simp only [Function.comp_def, lookup_map_kindOf]
  rfl

theorem names_ofConfig (h : ofTable project t = .ok c) :
    (Rule.Source.ofConfig c).map Rule.Source.name =
      builtinSources.filter (enables (sourceList t)) ++ (extraMembers t).map Prod.fst := by
  rw [ofConfig_eq h, List.map_append, List.map_map, ← names_builtin, List.filter_map]
  rfl

theorem nodup_names_ofConfig (hc : c.Coherent) (h : ofTable project t = .ok c) :
    ((Rule.Source.ofConfig c).map Rule.Source.name).Nodup := by
  obtain ⟨-, hrules, -⟩ := ofTable_eq_ok h
  obtain ⟨-, hextra, -⟩ := readRules_eq_ok hrules
  rw [names_ofConfig h, ← keys_of_readExtra hextra]
  refine List.nodup_append.2 ⟨List.Nodup.filter _ (by decide), hc.extraNames, ?_⟩
  rintro name hbuiltin _ hname rfl
  obtain ⟨source, hsource, rfl⟩ := List.mem_map.1 hname
  exact hc.extraFree source hsource (List.mem_filter.1 hbuiltin).1

/-! ### Files -/

theorem isKeyed_ownTable {file : Table} (hfile : Data.IsKeyed (.object file))
    (h : ownTable? file = some t) : Data.IsKeyed (.object t) := by
  rw [ownTable?] at h
  cases htool : Data.lookup "tool" file with
  | none => rw [htool] at h; cases h
  | some tool =>
    rw [htool, Option.bind_some, Data.get?] at h
    cases tool with
    | object ms =>
      have hms := hfile.lookup htool
      dsimp only [Data.members?, Option.bind_some] at h
      split at h
      next => cases h
      next own hown => cases h; exact hms.lookup hown
      next => cases h
    | _ => cases h

/-- The configuration of a project is that of a table whose parts have each key once, or the one
that holds where there is no such table. -/
theorem load_eq_ok {words : String → String} {w : Workspace} (h : load words w project = .ok c) :
    c = { project } ∨ ∃ t, Data.IsKeyed (.object t) ∧ ofTable project t = .ok c := by
  rw [load] at h
  dsimp only at h
  split at h
  next => cases h; exact .inl rfl
  next =>
    split at h
    next text _ =>
      rw [pure_bind] at h
      split at h
      next => cases h
      next => cases h
      next => cases h
      next file hfile =>
        split at h
        next t ht => exact .inr ⟨t, isKeyed_ownTable (Toml.isKeyed_read hfile) ht, h⟩
        next => cases h; exact .inl rfl
    next => cases h

theorem coherent_default (project : Path) : Coherent { project } where
  language := by simp only; decide
  sources := List.Subset.refl _
  extraNames := List.nodup_nil
  extraFree := nofun
  extraPaths := nofun
  kinds := List.nil_subset _
  counts := by simp only; decide
  order := by simp only; decide
  ratios := ratios_default

/-- A configuration that is loaded is coherent, wherever it comes from. -/
theorem coherent_load {words : String → String} {w : Workspace}
    (h : load words w project = .ok c) : c.Coherent := by
  rcases load_eq_ok h with rfl | ⟨t, hkeys, ht⟩
  · exact coherent_default project
  · exact coherent_ofTable hkeys ht

/-- An accepted table, whose parts have each key once, gives a coherent configuration. Its sources
have different names: the built-in ones that are enabled, in their own order, and one for
each further name in the order of the table. -/
theorem ofTable_accepted (hkeys : Data.IsKeyed (.object t)) (h : ofTable project t = .ok c) :
    c.Coherent ∧
      Rule.Source.ofConfig c =
        (Rule.Source.builtin.filter fun s => enables (sourceList t) s.name) ++
          (extraMembers t).map (sourceOf project t) ∧
      (Rule.Source.ofConfig c).map Rule.Source.name =
        builtinSources.filter (enables (sourceList t)) ++ (extraMembers t).map Prod.fst ∧
      ((Rule.Source.ofConfig c).map Rule.Source.name).Nodup :=
  have hcoherent := coherent_ofTable hkeys h
  ⟨hcoherent, ofConfig_eq h, names_ofConfig h, nodup_names_ofConfig hcoherent h⟩

/-- A table that lists built-in sources in another order and one of them twice, and names two
further ones. -/
def mixedTable : Table := [("rules", .object [
  ("sources", .list [.text "owasp", .text " core", .text "owasp", .text ""]),
  ("extra", .object [("b", .text " b.json "), ("a", .text "/a.json")]),
  ("extra_kinds", .object [("a", .text "security")])])]

theorem ofTable_accepted_mixedTable :
    Data.IsKeyed (.object mixedTable) ∧
      ∃ c, ofTable (Path.ofString "/ws") mixedTable = .ok c ∧ c.Coherent ∧
        (Rule.Source.ofConfig c).map Rule.Source.name = ["core", "owasp", "b", "a"] ∧
        ((Rule.Source.ofConfig c).map Rule.Source.name).Nodup ∧
        (Rule.Source.ofConfig c).map Rule.Source.kind =
          [.quality, .security, .quality, .security] := by
  have hkeys : Data.IsKeyed (.object mixedTable) := by
    have htext (s : String) : Data.IsKeyed (.text s) := .leaf rfl rfl
    simp [mixedTable, Data.isKeyed_object, Data.isKeyed_list, htext]
  have hc : ofTable (Path.ofString "/ws") mixedTable = .ok {
      rules := { sources := ["owasp", "core", "owasp"], extra := [("b", "b.json"), ("a", "/a.json")]
                 extraKinds := [("a", .security)] }
      project := Path.ofString "/ws" } := Stop.eq_ok_of_toOption (by decide +kernel)
  obtain ⟨hcoherent, hsources, hnames, hdistinct⟩ := ofTable_accepted hkeys hc
  refine ⟨hkeys, _, hc, hcoherent, hnames.trans (by decide +kernel), hdistinct, ?_⟩
  rw [hsources]
  decide +kernel

end Config

end RuleReview
