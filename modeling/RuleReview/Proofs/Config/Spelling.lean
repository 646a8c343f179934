import RuleReview.Proofs.Config.Readers
import RuleReview.Proofs.Data

/-! Spellings of options. An option whose name has hyphens may be written with low lines instead.
Proved: where no option of a table stands in both spellings, any of them may be written in the
other one, and the table gives the same configuration or is refused for the same cause. -/

namespace RuleReview.Config

/-! ### Spellings of a key -/

/-- How an option is written. -/
inductive Spelling
  | hyphens
  | lowLines

def Spelling.write (option : String) : Spelling → String
  | .hyphens => option
  | .lowLines => withLowLines option

def spells (option key : String) : Bool := key == option || key == withLowLines option

/-- A key as it is respelled. A choice tells the options for which it is, and how. -/
def respellKey (options : List String) (choice : String → Option Spelling) (key : String) :
    String :=
  match options.find? (spells · key) with
  | some option => ((choice option).map (Spelling.write option)).getD key
  | none => key

/-- Whether each key is a spelling of at most one option. -/
def Unambiguous (options : List String) : Prop :=
  ∀ o ∈ options, ∀ o' ∈ options, ∀ key ∈ [o, withLowLines o], spells o' key = true → o = o'

variable {options : List String} {option key : String} {choice : String → Option Spelling}
  {t : Table}

theorem spells_iff : spells option key = true ↔ key ∈ [option, withLowLines option] := by
  simp [spells]

theorem spells_write (spelling : Spelling) : spells option (spelling.write option) = true := by
  cases spelling <;> simp [spells, Spelling.write]

/-- A key of an option is written as the choice tells, or stays. -/
theorem respellKey_of_spells (h : Unambiguous options) (hoption : option ∈ options)
    (hkey : spells option key = true) (choice : String → Option Spelling) :
    respellKey options choice key = ((choice option).map (Spelling.write option)).getD key := by
  rw [respellKey]
  cases hfind : options.find? (spells · key) with
  | none => simp [List.find?_eq_none.1 hfind option hoption] at hkey
  | some o =>
    have hfound : spells o key = true := by simpa using List.find?_some hfind
    rw [h o (List.mem_of_find?_eq_some hfind) option hoption key (spells_iff.1 hfound) hkey]

theorem respellKey_of_forall (h : ∀ o ∈ options, spells o key = false)
    (choice : String → Option Spelling) : respellKey options choice key = key := by
  have hfind : options.find? (spells · key) = none := by simpa using h
  rw [respellKey, hfind]

/-- A key that is respelled is one of the same option as before, or of none as before. -/
theorem spells_respellKey (h : Unambiguous options) (hoption : option ∈ options)
    (choice : String → Option Spelling) (key : String) :
    spells option (respellKey options choice key) = spells option key := by
  by_cases hany : ∃ o ∈ options, spells o key = true
  · obtain ⟨o, ho, hkey⟩ := hany
    rw [respellKey_of_spells h ho hkey]
    cases choice o with
    | none => rfl
    | some spelling =>
      -- either the option is this one, or neither key is one of its spellings
      have hwritten : spells o (spelling.write o) = true := spells_write spelling
      rw [Option.map_some, Option.getD_some, Bool.eq_iff_iff]
      exact ⟨fun hspells => h o ho option hoption _ (spells_iff.1 hwritten) hspells ▸ hkey,
        fun hspells => h o ho option hoption _ (spells_iff.1 hkey) hspells ▸ hwritten⟩
  · rw [respellKey_of_forall (by simpa using hany)]

/-- No key is respelled as one that is of no option. -/
theorem respellKey_eq_iff (h : Unambiguous options) (hkey : ∀ o ∈ options, spells o key = false)
    (choice : String → Option Spelling) (k : String) :
    respellKey options choice k = key ↔ k = key := by
  constructor
  · rintro rfl
    exact (respellKey_of_forall (fun o ho => spells_respellKey h ho choice k ▸ hkey o ho) choice).symm
  · rintro rfl
    exact respellKey_of_forall hkey choice

/-! ### Spellings in a table -/

def respellKeys (options : List String) (choice : String → Option Spelling) (t : Table) : Table :=
  t.map fun m => (respellKey options choice m.1, m.2)

/-- Whether no option stands in both spellings. -/
def SpelledOnce (options : List String) (t : Table) : Prop :=
  ∀ o ∈ options, ¬ (o ∈ t.map Prod.fst ∧ withLowLines o ∈ t.map Prod.fst)

/-- The keys of an option that does not stand in both spellings are one. -/
theorem SpelledOnce.eq (h : SpelledOnce options t) (hoption : option ∈ options) {k k' : String}
    (hk : k ∈ t.map Prod.fst) (hk' : k' ∈ t.map Prod.fst) (hspells : spells option k = true)
    (hspells' : spells option k' = true) : k = k' := by
  rw [spells_iff, List.mem_pair] at hspells hspells'
  rcases hspells with rfl | rfl <;> rcases hspells' with rfl | rfl
  · rfl
  · exact absurd ⟨hk, hk'⟩ (h _ hoption)
  · exact absurd ⟨hk', hk⟩ (h _ hoption)
  · rfl

/-- The value of an option that does not stand in both spellings is that of the first key which is
one of the two. -/
theorem option?_eq_find? (h : ¬ (option ∈ t.map Prod.fst ∧ withLowLines option ∈ t.map Prod.fst)) :
    option? option t = (t.find? fun m => spells option m.1).map Prod.snd := by
  induction t with
  | nil => rfl
  | cons m t ih =>
    obtain ⟨k, v⟩ := m
    rw [List.map_cons, List.mem_cons, List.mem_cons] at h
    replace ih := ih fun hboth => h ⟨.inr hboth.1, .inr hboth.2⟩
    rw [option?, Data.lookup, Data.lookup, List.find?_cons, spells]
    by_cases hoption : k = option
    · simp [hoption]
    · by_cases hlow : k = withLowLines option
      · have hnone : Data.lookup option t = none := Data.lookup_eq_none fun m hm heq =>
          h ⟨.inr (heq ▸ List.mem_map_of_mem hm), .inl hlow.symm⟩
        rw [if_neg hoption, if_pos hlow, hnone]
        simp [hlow]
      · rw [if_neg hoption, if_neg hlow, beq_false_of_ne hoption, beq_false_of_ne hlow]
        exact ih

theorem mem_keys_respellKeys :
    key ∈ (respellKeys options choice t).map Prod.fst ↔
      ∃ k ∈ t.map Prod.fst, respellKey options choice k = key := by
  simp [respellKeys]

theorem find?_respellKeys (h : Unambiguous options) (hoption : option ∈ options) (t : Table) :
    ((respellKeys options choice t).find? fun m => spells option m.1).map Prod.snd =
      (t.find? fun m => spells option m.1).map Prod.snd := by
  induction t with
  | nil => rfl
  | cons m t ih =>
    rw [respellKeys, List.map_cons, List.find?_cons, List.find?_cons,
      spells_respellKey h hoption]
    cases spells option m.1 with
    | true => rfl
    | false => exact ih

theorem SpelledOnce.respellKeys (hoptions : Unambiguous options) (h : SpelledOnce options t) :
    SpelledOnce options (respellKeys options choice t) := by
  rintro o ho ⟨hhyphens, hlow⟩
  obtain ⟨k, hk, hkey⟩ := mem_keys_respellKeys.1 hhyphens
  obtain ⟨k', hk', hkey'⟩ := mem_keys_respellKeys.1 hlow
  have hspells : spells o k = true := by
    rw [← spells_respellKey hoptions ho choice, hkey]
    exact spells_write .hyphens
  have hspells' : spells o k' = true := by
    rw [← spells_respellKey hoptions ho choice, hkey']
    exact spells_write .lowLines
  obtain rfl := h.eq ho hk hk' hspells hspells'
  have hsame : o = withLowLines o := hkey.symm.trans hkey'
  rw [spells_iff, ← hsame, List.mem_pair, or_self] at hspells
  subst hspells
  exact h k ho ⟨hk, hsame ▸ hk⟩

theorem option?_respellKeys (hoptions : Unambiguous options) (h : SpelledOnce options t)
    (hoption : option ∈ options) (choice : String → Option Spelling) :
    option? option (respellKeys options choice t) = option? option t := by
  rw [option?_eq_find? (h.respellKeys hoptions option hoption), find?_respellKeys hoptions hoption,
    option?_eq_find? (h option hoption)]

theorem lookup_respellKeys (hoptions : Unambiguous options)
    (h : ∀ o ∈ options, spells o key = false) (t : Table) :
    Data.lookup key (respellKeys options choice t) = Data.lookup key t := by
  induction t with
  | nil => rfl
  | cons m t ih =>
    obtain ⟨k, v⟩ := m
    rw [respellKeys, List.map_cons, Data.lookup, Data.lookup]
    simp only [respellKey_eq_iff hoptions h]
    exact ite_congr rfl (fun _ => rfl) fun _ => ih

/-! ### Spellings in sections -/

/-- The options with hyphens outside the sections. -/
def topOptions : List String := ["default-language"]

def optionsOf : String → List String
  | "rules" => ["extra-kinds"]
  | "metrics" => ["complexity-high", "complexity-critical", "function-length", "nesting-depth",
    "duplication-ratio", "comment-ratio", "comment-min-lines"]
  | "github" => ["max-comments", "count-hunk-headers"]
  | _ => []

def respellSection (name : String) (choice : String → Option Spelling) : Data → Data
  | .object ms => .object (respellKeys (optionsOf name) choice ms)
  | d => d

/-- A table whose keys are respelled. A choice is asked for the options of each section, and for
those outside them under an empty name. -/
def respell (choice : String → String → Option Spelling) (t : Table) : Table :=
  respellKeys topOptions (choice "") (t.map fun m => (m.1, respellSection m.1 (choice m.1) m.2))

/-- Whether no option of a table stands in both spellings. -/
def IsSpelledOnce (t : Table) : Prop :=
  SpelledOnce topOptions t ∧ ∀ name, SpelledOnce (optionsOf name) (membersOf (Data.lookup name t))

/-- A table spells its options once where those of its own and those of each section are. -/
theorem isSpelledOnce_of_forall_mem (htop : SpelledOnce topOptions t)
    (h : ∀ m ∈ t, SpelledOnce (optionsOf m.1) (membersOf m.2)) : IsSpelledOnce t := by
  refine ⟨htop, fun name => ?_⟩
  cases hd : Data.lookup name t with
  | none => exact fun _ _ hkeys => List.not_mem_nil hkeys.1
  | some d => exact h _ (Data.mem_of_lookup hd)

variable {name label : String} {d : Option Data}

theorem unambiguous_topOptions : Unambiguous topOptions := by
  unfold Unambiguous
  decide

theorem unambiguous_optionsOf (name : String) : Unambiguous (optionsOf name) := by
  unfold Unambiguous optionsOf
  split <;> decide

theorem map_respellSection (h : optionsOf name = []) (choice : String → Option Spelling)
    (d : Option Data) : d.map (respellSection name choice) = d := by
  cases d with
  | none => rfl
  | some d =>
    cases d with
    | object ms => simp [respellSection, h, respellKeys, respellKey_of_forall]
    | _ => rfl

theorem section_respellSection (label name : String) (choice : String → Option Spelling)
    (d : Option Data) : section_ label (d.map (respellSection name choice)) =
      (section_ label d).map (respellKeys (optionsOf name) choice) := by
  cases d with
  | none => rfl
  | some d => cases d <;> rfl

/-- What is read from the members of a section is read from it when it is respelled. -/
theorem bind_section_respell {α : Type} {read : Table → Except Failure α}
    (h : read (respellKeys (optionsOf name) choice (membersOf d)) = read (membersOf d)) :
    section_ label (d.map (respellSection name choice)) >>= read = section_ label d >>= read := by
  rw [section_respellSection]
  cases hms : section_ label d with
  | error e => rfl
  | ok ms =>
    obtain rfl := section_eq_ok hms
    exact h

theorem readRules_respell (h : SpelledOnce (optionsOf "rules") (membersOf d)) :
    readRules (d.map (respellSection "rules" choice)) = readRules d := by
  rw [readRules, readRules]
  refine bind_section_respell ?_
  have hother : ∀ key ∈ ["sources", "extra"], ∀ o ∈ optionsOf "rules", spells o key = false := by
    decide
  rw [lookup_respellKeys (unambiguous_optionsOf _) (hother "sources" (by decide)),
    lookup_respellKeys (unambiguous_optionsOf _) (hother "extra" (by decide)),
    option?_respellKeys (unambiguous_optionsOf _) h (by decide)]

theorem readMetrics_respell (h : SpelledOnce (optionsOf "metrics") (membersOf d)) :
    readMetrics (d.map (respellSection "metrics" choice)) = readMetrics d := by
  rw [readMetrics, readMetrics]
  refine bind_section_respell ?_
  have hoption (o : String) (ho : o ∈ optionsOf "metrics") :=
    option?_respellKeys (unambiguous_optionsOf _) h ho choice
  simp (disch := decide) only [readCount, readRatio, hoption]

theorem readComments_respell (h : SpelledOnce (optionsOf "github") (membersOf d)) :
    readComments (d.map (respellSection "github" choice)) = readComments d := by
  rw [readComments, readComments]
  refine bind_section_respell ?_
  have hoption (o : String) (ho : o ∈ optionsOf "github") :=
    option?_respellKeys (unambiguous_optionsOf _) h ho choice
  simp (disch := decide) only [readCount, readBoolean, hoption]

/-! ### Tables -/

theorem lookup_map (f : String → Data → Data) (key : String) (t : Table) :
    Data.lookup key (t.map fun m => (m.1, f m.1 m.2)) = (Data.lookup key t).map (f key) := by
  induction t with
  | nil => rfl
  | cons m t ih =>
    obtain ⟨k, v⟩ := m
    rw [List.map_cons, Data.lookup, Data.lookup]
    split
    next hk => rw [hk, Option.map_some]
    next => exact ih

theorem lookup_respell (choice : String → String → Option Spelling)
    (h : ∀ o ∈ topOptions, spells o name = false) (t : Table) :
    Data.lookup name (respell choice t) =
      (Data.lookup name t).map (respellSection name (choice name)) := by
  rw [respell, lookup_respellKeys unambiguous_topOptions h,
    lookup_map fun name => respellSection name (choice name)]

theorem readLanguage_respell (choice : String → String → Option Spelling)
    (h : SpelledOnce topOptions t) : readLanguage (respell choice t) = readLanguage t := by
  have hkeys : (t.map fun m => (m.1, respellSection m.1 (choice m.1) m.2)).map Prod.fst =
      t.map Prod.fst := by
    rw [List.map_map]
    rfl
  have hvalue : option? "default-language"
      (t.map fun m => (m.1, respellSection m.1 (choice m.1) m.2)) =
      option? "default-language" t := by
    rw [option?, option?, lookup_map fun name => respellSection name (choice name),
      lookup_map fun name => respellSection name (choice name), map_respellSection rfl,
      map_respellSection (by decide)]
  rw [readLanguage, respell, option?_respellKeys unambiguous_topOptions (by
    rw [SpelledOnce, hkeys]; exact h) (by decide), hvalue, readLanguage]

/-- A table in which no option stands in both spellings may be respelled: it gives the same
configuration, or is refused for the same cause and with the same message. -/
theorem ofTable_respell (project : Path) (choice : String → String → Option Spelling)
    (h : IsSpelledOnce t) : ofTable project (respell choice t) = ofTable project t := by
  have hother : ∀ name ∈ ["rules", "metrics", "github", "linters"], ∀ o ∈ topOptions,
      spells o name = false := by
    decide
  rw [ofTable, ofTable, readLanguage_respell choice h.1,
    lookup_respell choice (hother "rules" (by decide)), readRules_respell (h.2 _),
    lookup_respell choice (hother "metrics" (by decide)), readMetrics_respell (h.2 _),
    lookup_respell choice (hother "github" (by decide)), readComments_respell (h.2 _),
    lookup_respell choice (hother "linters" (by decide)), map_respellSection rfl]

def manySpellings : Table := [
  ("default_language", .text "go"),
  ("metrics", .object [("complexity_critical", .integer 7), ("complexity-high", .integer 5)]),
  ("rules", .object [("extra", .object [("s", .text "s.json")]),
    ("extra-kinds", .object [("s", .text "security")])])]

theorem ofTable_respell_manySpellings :
    IsSpelledOnce manySpellings ∧
      (respell (fun _ _ => some .lowLines) manySpellings).map Prod.fst =
        ["default_language", "metrics", "rules"] ∧
      (membersOf (Data.lookup "metrics"
        (respell (fun _ _ => some .lowLines) manySpellings))).map Prod.fst =
        ["complexity_critical", "complexity_high"] ∧
      ofTable ⟨"", []⟩ (respell (fun _ _ => some .lowLines) manySpellings) = .ok {
        defaultLanguage := "go"
        rules := { extra := [("s", "s.json")], extraKinds := [("s", .security)] }
        metrics := { complexityHigh := 5, complexityCritical := 7 }
        project := ⟨"", []⟩ } := by
  have honce : IsSpelledOnce manySpellings := by
    refine isSpelledOnce_of_forall_mem ?_ ?_
    · unfold SpelledOnce
      decide
    · unfold SpelledOnce
      decide
  refine ⟨honce, by decide, by decide,
    (ofTable_respell ⟨"", []⟩ (fun _ _ => some .lowLines) honce).trans ?_⟩
  exact Stop.eq_ok_of_toOption (by decide +kernel)

end RuleReview.Config
