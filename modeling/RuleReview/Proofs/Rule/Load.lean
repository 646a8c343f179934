import RuleReview.Proofs.Stop
import RuleReview.Rule.Source

/-! What loading rules gives, and what makes it stop. A source is read in one order; the
first thing in it that is not passed over decides. A category whose head cannot be used is passed
over with all that is in it; a source is refused if another one has rules that are no list. -/

namespace RuleReview.Rule

/-! ### Rules -/

/-- The cause for which a pattern that is not read stops the reading. -/
def faultOfPattern? : Pattern.Error → Option Fault
  | .malformed => none
  | .repeatTooLarge => some .repeatTooLarge
  | .flagsClash => some .flagsClash
  | .countTooLong n => some (.tooManyDigits n)

/-- The cause for which a rule stops the reading: its pattern alone is asked. -/
def ruleFault? (d : Data) : Option Fault :=
  match (d.get? "pattern").bind Data.text? with
  | none => none
  | some source =>
    match Pattern.parse { ignoreCase := true } source with
    | .ok _ => none
    | .error e => faultOfPattern? e

theorem compile_eq_error_fault {source : String} {f : Fault} :
    compile source = .error (.fault f) ↔
      ∃ e, Pattern.parse { ignoreCase := true } source = .error e ∧ faultOfPattern? e = some f := by
  have hempty : (Pattern.parse { ignoreCase := true } "").isOk := by decide +kernel
  rw [compile]
  split
  next h =>
    obtain rfl := beq_iff_eq.1 h
    cases hparse : Pattern.parse { ignoreCase := true } "" with
    | ok p => simp
    | error e => simp [hparse, Except.isOk, Except.toBool] at hempty
  next =>
    cases hparse : Pattern.parse { ignoreCase := true } source with
    | ok p => simp
    | error e => cases e <;> simp [faultOfPattern?]

theorem read_eq_error_fault {d : Data} {f : Fault} :
    read d = .error (.fault f) ↔ ruleFault? d = some f := by
  rw [read, ruleFault?, Data.get?]
  cases d.members? with
  | none => simp [throw, throwThe, MonadExceptOf.throw]
  | some members =>
    simp only [Option.bind_some]
    cases hsource : (Data.lookup "pattern" members).bind Data.text? with
    | none => simp [throw, throwThe, MonadExceptOf.throw]
    | some source =>
      have hcompile : compile source = .error (.fault f) ↔ _ := compile_eq_error_fault
      simp only [Stop.bind_eq_error, hcompile]
      constructor
      · rintro (⟨e, hparse, he⟩ | ⟨p, -, hrest⟩)
        · rw [hparse]
          exact he
        · split at hrest
          next => split at hrest <;> cases hrest
          next => cases hrest
      · intro h
        split at h
        next => cases h
        next e hparse => exact .inl ⟨e, hparse, h⟩

def usableRules (ds : List Data) : List Rule := ds.filterMap fun d => (read d).toOption

theorem readRules_fst (source key : String) (index : Nat) (ds : List Data) (j : Journal) :
    (readRules source key index ds j).1 =
      Stop.barring ((ds.filterMap ruleFault?).map .fault) (usableRules ds) := by
  induction ds generalizing index j with
  | nil => rfl
  | cons d ds ih =>
    rw [readRules]
    cases hfault : ruleFault? d with
    | some f =>
      rw [read_eq_error_fault.2 hfault, List.filterMap_cons_some hfault]
      rfl
    | none =>
      rw [List.filterMap_cons_none hfault]
      cases hread : read d with
      | ok r =>
        have husable : usableRules (d :: ds) = r :: usableRules ds := by
          simp [usableRules, hread, Except.toOption]
        rw [husable, Stop.fst_bind, ih]
        exact Stop.map_barring _ _ _
      | error e =>
        have husable : usableRules (d :: ds) = usableRules ds := by
          simp [usableRules, hread, Except.toOption]
        rw [husable]
        cases e with
        | defect e =>
          rw [Stop.fst_bind]
          exact ih (index + 1) _
        | fault f => rw [read_eq_error_fault.1 hread] at hfault; cases hfault

/-! ### Categories -/

mutual

/-- What stops the reading of a category, in reading order: nothing, where the category is
passed over. -/
def stops (key : String) (inherited : Severity) (room : Nat) : Data → List LoadError
  | .object members =>
    match readHead key inherited members with
    | .error _ => []
    | .ok head =>
      match room with
      | 0 => [.fault .tooDeepRules]
      | room + 1 =>
        match ruleList key members with
        | .error e => [e]
        | .ok ds =>
          (ds.filterMap ruleFault?).map .fault ++ stopsAmong reserved head.severity room members
  | _ => []

/-- What stops the reading of the categories among members, but for some keys. -/
def stopsAmong (except : List String) (inherited : Severity) (room : Nat) :
    List (String × Data) → List LoadError
  | [] => []
  | (key, d) :: rest =>
    (if except.contains key then [] else stops key inherited room d) ++
      stopsAmong except inherited room rest

end

mutual

/-- The category of an object, made of what can be used of it. -/
def usableCategory (key : String) (inherited : Severity) : Data → Option Category
  | .object members =>
    match readHead key inherited members with
    | .error _ => none
    | .ok head =>
      let ds := (ruleList key members).toOption.getD []
      some (.mk key head.title head.severity (usableRules ds)
        (usableAmong reserved head.severity members) head.cwe)
  | _ => none

/-- The categories among members, but for some keys. -/
def usableAmong (except : List String) (inherited : Severity) :
    List (String × Data) → List Category
  | [] => []
  | (key, d) :: rest =>
    (if except.contains key then [] else (usableCategory key inherited d).toList) ++
      usableAmong except inherited rest

end

mutual

theorem readCategory_fst (source key : String) (inherited : Severity) (room : Nat) (d : Data)
    (j : Journal) : (readCategory source key inherited room d j).1 =
      Stop.barring (stops key inherited room d) (usableCategory key inherited d) := by
  cases d with
  | object members =>
    rw [readCategory, stops, usableCategory]
    cases hhead : readHead key inherited members with
    | error e => rfl
    | ok head =>
      cases room with
      | zero => rfl
      | succ room =>
        simp only [Stop.fst_bind, Stop.liftExcept_apply]
        cases hrules : ruleList key members with
        | error e => rfl
        | ok ds =>
          simp only [readRules_fst, readCategories_fst]
          exact Stop.barring_bind (Stop.map_barring _ _ _)
  | _ => rfl

theorem readCategories_fst (source : String) (except : List String) (inherited : Severity)
    (room : Nat) (members : List (String × Data)) (j : Journal) :
    (readCategories source except inherited room members j).1 =
      Stop.barring (stopsAmong except inherited room members)
        (usableAmong except inherited members) := by
  cases members with
  | nil => rfl
  | cons m rest =>
    obtain ⟨key, d⟩ := m
    rw [readCategories, stopsAmong, usableAmong]
    split
    next => exact readCategories_fst source except inherited room rest j
    next =>
      simp only [Stop.fst_bind, readCategory_fst, readCategories_fst]
      exact Stop.barring_bind (Stop.map_barring _ _ _)

end

/-! ### Heads -/

/-- The value for a severity that members give, unless it is null. -/
def ownSeverity? (members : List (String × Data)) : Option Data :=
  match Data.lookup "severity" members with
  | none | some .null => none
  | some d => some d

/-- The value for weaknesses that members give. -/
def ownCwe? (members : List (String × Data)) : Option Data :=
  (Data.lookup "cwe_mappings" members).or (Data.lookup "cwe" members)

/-- A severity is the one that members give, or the inherited one where they give none. -/
def GivesSeverity (inherited : Severity) (members : List (String × Data)) (s : Severity) : Prop :=
  match ownSeverity? members with
  | none => s = inherited
  | some d => Severity.ofData d = .ok s

/-- Weaknesses are those that members give, as a list or as one text, or none. -/
def GivesCwe (members : List (String × Data)) (cwe : List String) : Prop :=
  match ownCwe? members with
  | none => cwe = []
  | some d => d = .list (cwe.map .text) ∨ ∃ s, d = .text s ∧ cwe = [s]

theorem texts?_eq_some_iff {ds : List Data} {ss : List String} :
    texts? ds = some ss ↔ ds = ss.map .text := by
  induction ds generalizing ss with
  | nil => cases ss <;> simp [texts?]
  | cons d ds ih =>
    cases d with
    | text s =>
      cases ss with
      | nil => simp [texts?]
      | cons s' ss => simpa [texts?, ih] using and_comm
    | _ => cases ss <;> simp [texts?]

theorem readCwe_eq_ok_iff {d : Data} {cwe : List String} :
    readCwe d = .ok cwe ↔ d = .list (cwe.map .text) ∨ ∃ s, d = .text s ∧ cwe = [s] := by
  cases d with
  | text s => simp [readCwe, eq_comm]
  | list ds =>
    have htexts : readCwe (.list ds) = .ok cwe ↔ texts? ds = some cwe := by
      rw [readCwe]
      cases texts? ds <;> simp
    rw [htexts, texts?_eq_some_iff]
    simp
  | _ => simp [readCwe]

theorem givesCwe_iff {members : List (String × Data)} {cwe : List String} :
    readCwe ((ownCwe? members).getD (.list [])) = .ok cwe ↔ GivesCwe members cwe := by
  rw [GivesCwe, readCwe_eq_ok_iff]
  cases ownCwe? members with
  | none => cases cwe <;> simp
  | some d => rfl

/-- The severity that members give, or the inherited one where they give none. -/
def severityIn (inherited : Severity) (members : List (String × Data)) : Except Defect Severity :=
  match ownSeverity? members with
  | none => .ok inherited
  | some d => (Severity.ofData d).mapError .severity

theorem severityIn_eq_ok_iff {inherited s : Severity} {members : List (String × Data)} :
    severityIn inherited members = .ok s ↔ GivesSeverity inherited members s := by
  rw [severityIn, GivesSeverity]
  cases ownSeverity? members with
  | none => simp [eq_comm]
  | some d =>
    dsimp only
    cases Severity.ofData d with
    | ok own =>
      have hmap : (Except.ok own : Except Severity.Error Severity).mapError Defect.severity =
          .ok own := rfl
      rw [hmap]
      simp
    | error e => exact iff_of_false nofun nofun

/-- The head of a category is read in order: its severity, its title and its weaknesses. -/
theorem readHead_eq (key : String) (inherited : Severity) (members : List (String × Data)) :
    readHead key inherited members = (do
      let severity ← severityIn inherited members
      let cwe ← readCwe ((ownCwe? members).getD (.list []))
      return ⟨(givenText? (Data.lookup "title" members)).getD (Text.strip (titleOfKey key)),
        severity, cwe⟩) := by
  rw [readHead, severityIn, ownSeverity?]
  rcases Data.lookup "severity" members with _ | d
  · rfl
  · cases d with
    | null => rfl
    | text s =>
      dsimp only
      cases Severity.ofData (.text s) <;> rfl
    | _ => rfl

/-- The head of a category can be used if its severity and its weaknesses can. -/
theorem readHead_eq_ok_iff {key : String} {inherited : Severity} {members : List (String × Data)}
    {head : Head} : readHead key inherited members = .ok head ↔
      head.title = (givenText? (Data.lookup "title" members)).getD (Text.strip (titleOfKey key)) ∧
        GivesSeverity inherited members head.severity ∧ GivesCwe members head.cwe := by
  simp only [readHead_eq, Stop.bind_eq_ok, severityIn_eq_ok_iff, givesCwe_iff]
  constructor
  · rintro ⟨s, hs, cwe, hcwe, hhead⟩
    cases hhead
    exact ⟨rfl, hs, hcwe⟩
  · rintro ⟨htitle, hs, hcwe⟩
    exact ⟨_, hs, _, hcwe, by rw [← htitle]; rfl⟩

/-- Whether the head of a category of some members can be used: they give no severity or one that
is known, and no weaknesses, a text or a list of texts. -/
structure IsHeaded (members : List (String × Data)) : Prop where
  severity : ∀ d, ownSeverity? members = some d → ∃ s, Severity.ofData d = .ok s
  cwe : ∀ d, ownCwe? members = some d →
    (∃ s, d = .text s) ∨ ∃ ss : List String, d = .list (ss.map .text)

theorem isHeaded_iff (key : String) (inherited : Severity) (members : List (String × Data)) :
    IsHeaded members ↔ ∃ head, readHead key inherited members = .ok head := by
  simp only [readHead_eq_ok_iff]
  constructor
  · rintro ⟨hseverity, hcwe⟩
    have hseverity : ∃ s, GivesSeverity inherited members s := by
      simp only [GivesSeverity]
      cases hown : ownSeverity? members with
      | none => exact ⟨inherited, rfl⟩
      | some d => exact hseverity d hown
    have hcwe : ∃ cwe, GivesCwe members cwe := by
      simp only [GivesCwe]
      cases hown : ownCwe? members with
      | none => exact ⟨[], rfl⟩
      | some d =>
        obtain ⟨s, rfl⟩ | ⟨ss, rfl⟩ := hcwe d hown
        · exact ⟨[s], .inr ⟨s, rfl, rfl⟩⟩
        · exact ⟨ss, .inl rfl⟩
    obtain ⟨s, hs⟩ := hseverity
    obtain ⟨cwe, hcwe⟩ := hcwe
    exact ⟨⟨_, s, cwe⟩, rfl, hs, hcwe⟩
  · rintro ⟨head, -, hseverity, hcwe⟩
    refine ⟨fun d hd => ?_, fun d hd => ?_⟩
    · rw [GivesSeverity, hd] at hseverity
      exact ⟨_, hseverity⟩
    · rw [GivesCwe, hd] at hcwe
      obtain hlist | ⟨s, htext, -⟩ := hcwe
      · exact .inr ⟨_, hlist⟩
      · exact .inl ⟨s, htext⟩

/-! ### Categories among members -/

theorem stopsAmong_eq (except : List String) (inherited : Severity) (room : Nat)
    (members : List (String × Data)) : stopsAmong except inherited room members =
      members.flatMap fun m =>
        if except.contains m.1 then [] else stops m.1 inherited room m.2 := by
  induction members with
  | nil => rfl
  | cons m members ih => rw [stopsAmong, ih, List.flatMap_cons]

theorem usableAmong_eq (except : List String) (inherited : Severity)
    (members : List (String × Data)) : usableAmong except inherited members =
      members.flatMap fun m =>
        if except.contains m.1 then [] else (usableCategory m.1 inherited m.2).toList := by
  induction members with
  | nil => rfl
  | cons m members ih => rw [usableAmong, ih, List.flatMap_cons]

/-- What is collected from members, but for those of some keys, is collected from one of them. -/
theorem mem_flatMap_except {α : Type} {except : List String} {members : List (String × Data)}
    {f : String × Data → List α} {x : α} :
    x ∈ (members.flatMap fun m => if except.contains m.1 then [] else f m) ↔
      ∃ key d, (key, d) ∈ members ∧ key ∉ except ∧ x ∈ f (key, d) := by
  simp only [List.mem_flatMap, Prod.exists, List.contains_iff_mem]
  refine exists₂_congr fun key d => and_congr_right fun _ => ?_
  split <;> simp [*]

theorem mem_stopsAmong {except : List String} {inherited : Severity} {room : Nat}
    {members : List (String × Data)} {e : LoadError} :
    e ∈ stopsAmong except inherited room members ↔
      ∃ key d, (key, d) ∈ members ∧ key ∉ except ∧ e ∈ stops key inherited room d := by
  rw [stopsAmong_eq, mem_flatMap_except]

theorem mem_usableAmong {except : List String} {inherited : Severity}
    {members : List (String × Data)} {c : Category} : c ∈ usableAmong except inherited members ↔
      ∃ key d, (key, d) ∈ members ∧ key ∉ except ∧ usableCategory key inherited d = some c := by
  rw [usableAmong_eq, mem_flatMap_except]
  simp only [Option.mem_toList]

/-! ### Levels -/

instance (members : List (String × Data)) : Decidable (IsHeaded members) :=
  decidable_of_iff ((readHead "" .medium members).isOk = true) <| by
    rw [isHeaded_iff "" .medium]
    cases readHead "" .medium members with
    | ok head => exact iff_of_true rfl ⟨head, rfl⟩
    | error e => exact iff_of_false nofun nofun

mutual

/-- How many levels of categories are read of a value. What is in a category that is passed over
does not count. -/
def levels : Data → Nat
  | .object members => if IsHeaded members then levelsAmong reserved members + 1 else 0
  | _ => 0

/-- How many levels of categories are read of members, but for some keys. -/
def levelsAmong (except : List String) : List (String × Data) → Nat
  | [] => 0
  | (key, d) :: rest =>
    max (if except.contains key then 0 else levels d) (levelsAmong except rest)

end

/-! ### Categories that are read -/

/-- The members of a category among members, or of one at any depth below, where its head and the
heads of all categories that it is in can be used. -/
inductive Live : List String → List (String × Data) → List (String × Data) → Prop
  | here {except : List String} {members category : List (String × Data)} {key : String}
    (hmem : (key, .object category) ∈ members) (hkey : key ∉ except) (hhead : IsHeaded category) :
    Live except members category
  | inside {except : List String} {members above category : List (String × Data)} {key : String}
    (hmem : (key, .object above) ∈ members) (hkey : key ∉ except) (hhead : IsHeaded above)
    (hbelow : Live reserved above category) : Live except members category

/-- A cause in a category itself, not in one below it. -/
inductive IsCause (category : List (String × Data)) : LoadError → Prop
  | rules {key : String} {d : Data} (hrules : Data.lookup "patterns" category = some d)
    (hlist : ∀ ds, d ≠ .list ds) : IsCause category (.source (.rulesNotList key))
  | rule {ds : List Data} {d : Data} {f : Fault}
    (hrules : Data.lookup "patterns" category = some (.list ds)) (hmem : d ∈ ds)
    (hfault : ruleFault? d = some f) : IsCause category (.fault f)

theorem Live.cons {except : List String} {members category : List (String × Data)}
    (h : Live except members category) (m : String × Data) :
    Live except (m :: members) category := by
  cases h with
  | here hmem hkey hhead => exact .here (List.mem_cons_of_mem m hmem) hkey hhead
  | inside hmem hkey hhead hbelow => exact .inside (List.mem_cons_of_mem m hmem) hkey hhead hbelow

theorem isCause_of_ruleList {key : String} {members : List (String × Data)} {e : LoadError}
    (h : ruleList key members = .error e) : IsCause members e := by
  rw [ruleList] at h
  split at h
  next => cases h
  next => cases h
  next d hd hrules =>
    cases h
    exact .rules hrules fun ds hlist => hd ds (hlist ▸ rfl)

theorem ruleList_eq_ok {key : String} {members : List (String × Data)} {ds : List Data}
    (h : ruleList key members = .ok ds) :
    ds = [] ∨ Data.lookup "patterns" members = some (.list ds) := by
  rw [ruleList] at h
  split at h
  next => cases h; exact .inl rfl
  next hrules => cases h; exact .inr hrules
  next => cases h

mutual

theorem exists_cause_of_mem_stops {key : String} {inherited : Severity} {room : Nat} {d : Data}
    (hroom : levels d ≤ room) {e : LoadError} (h : e ∈ stops key inherited room d) :
    ∃ members, d = .object members ∧ IsHeaded members ∧
      (IsCause members e ∨ ∃ category, Live reserved members category ∧ IsCause category e) := by
  cases d with
  | object members =>
    have hread {head : Head} (hhead : readHead key inherited members = .ok head) :
        IsHeaded members ∧ levelsAmong reserved members + 1 ≤ room := by
      have hheaded := (isHeaded_iff key inherited members).2 ⟨head, hhead⟩
      rw [levels, if_pos hheaded] at hroom
      exact ⟨hheaded, hroom⟩
    rw [stops] at h
    split at h
    next => cases h
    next head hhead =>
      obtain ⟨hheaded, hlevels⟩ := hread hhead
      cases room with
      | zero => exact absurd hlevels (Nat.not_succ_le_zero _)
      | succ room =>
        refine ⟨members, rfl, hheaded, ?_⟩
        dsimp only at h
        split at h
        next hrules =>
          obtain rfl := List.mem_singleton.1 h
          exact .inl (isCause_of_ruleList hrules)
        next ds hrules =>
          rcases List.mem_append.1 h with h | h
          · obtain ⟨f, hf, rfl⟩ := List.mem_map.1 h
            obtain ⟨d, hd, hfault⟩ := List.mem_filterMap.1 hf
            obtain rfl | hlist := ruleList_eq_ok hrules
            · cases hd
            · exact .inl (.rule hlist hd hfault)
          · exact .inr (exists_cause_of_mem_stopsAmong (Nat.le_of_succ_le_succ hlevels) h)
  | _ => cases h

theorem exists_cause_of_mem_stopsAmong {except : List String} {inherited : Severity} {room : Nat}
    {members : List (String × Data)} (hroom : levelsAmong except members ≤ room) {e : LoadError}
    (h : e ∈ stopsAmong except inherited room members) :
    ∃ category, Live except members category ∧ IsCause category e := by
  cases members with
  | nil => cases h
  | cons m rest =>
    obtain ⟨key, d⟩ := m
    rw [levelsAmong, Nat.max_le] at hroom
    rw [stopsAmong] at h
    rcases List.mem_append.1 h with h | h
    · split at h
      next => cases h
      next hkey =>
        rw [if_neg hkey] at hroom
        have hkey : key ∉ except := by simpa using hkey
        obtain ⟨members, rfl, hhead, hcause | ⟨category, hlive, hcause⟩⟩ :=
          exists_cause_of_mem_stops hroom.1 h
        · exact ⟨members, .here List.mem_cons_self hkey hhead, hcause⟩
        · exact ⟨category, .inside List.mem_cons_self hkey hhead hlive, hcause⟩
    · obtain ⟨category, hlive, hcause⟩ := exists_cause_of_mem_stopsAmong hroom.2 h
      exact ⟨category, hlive.cons _, hcause⟩

end

theorem stopsAmong_ne_nil_of_mem {except : List String} {inherited : Severity} {room : Nat}
    {members : List (String × Data)} {key : String} {d : Data} (hmem : (key, d) ∈ members)
    (hkey : key ∉ except) (h : stops key inherited room d ≠ []) :
    stopsAmong except inherited room members ≠ [] := by
  obtain ⟨e, he⟩ := List.exists_mem_of_ne_nil _ h
  exact List.ne_nil_of_mem (mem_stopsAmong.2 ⟨key, d, hmem, hkey, he⟩)

/-- A category that is read and whose rules are no list stops the reading, unless one that it is in
does before. -/
theorem stopsAmong_ne_nil {except : List String} {members category : List (String × Data)}
    (hlive : Live except members category) {d : Data}
    (hrules : Data.lookup "patterns" category = some d) (hlist : ∀ ds, d ≠ .list ds)
    (inherited : Severity) (room : Nat) : stopsAmong except inherited room members ≠ [] := by
  induction hlive generalizing inherited room with
  | @here except members category key hmem hkey hhead =>
    obtain ⟨head, hhead⟩ := (isHeaded_iff key inherited category).1 hhead
    have hrefused : ruleList key category = .error (.source (.rulesNotList key)) := by
      rw [ruleList, hrules]
      cases d with
      | list ds => exact absurd rfl (hlist ds)
      | _ => rfl
    refine stopsAmong_ne_nil_of_mem hmem hkey ?_
    rw [stops, hhead, hrefused]
    cases room <;> exact List.cons_ne_nil _ _
  | @inside except members above category key hmem hkey hhead hbelow ih =>
    obtain ⟨head, hhead⟩ := (isHeaded_iff key inherited above).1 hhead
    refine stopsAmong_ne_nil_of_mem hmem hkey ?_
    rw [stops, hhead]
    cases room with
    | zero => exact List.cons_ne_nil _ _
    | succ room =>
      cases ruleList key above with
      | error e => exact List.cons_ne_nil _ _
      | ok ds => exact List.append_ne_nil_of_right_ne_nil _ (ih hrules head.severity room)

/-- Whether the patterns of the rules of categories that are read are patterns or malformed. -/
def HasReadablePatterns (d : Data) : Prop :=
  ∀ top category rules, d = .object top → Live [] top category →
    Data.lookup "patterns" category = some (.list rules) → ∀ rule ∈ rules, ∀ source,
      rule.get? "pattern" = some (.text source) →
        ∀ e, Pattern.parse { ignoreCase := true } source = .error e → e = .malformed

theorem ruleFault?_eq_none {rule : Data} (h : ∀ source, rule.get? "pattern" = some (.text source) →
    ∀ e, Pattern.parse { ignoreCase := true } source = .error e → e = .malformed) :
    ruleFault? rule = none := by
  rw [ruleFault?]
  cases hvalue : rule.get? "pattern" with
  | none => rfl
  | some value =>
    cases value with
    | text source =>
      simp only [Option.bind_some, Data.text?]
      split
      next => rfl
      next e hparse =>
        rw [h source hvalue e hparse]
        rfl
    | _ => rfl

/-- Whether there is room for all levels of the categories that are read. -/
def Fits (room : Nat) (d : Data) : Prop := ∀ top, d = .object top → levelsAmong [] top ≤ room

/-- A source whose patterns are patterns or malformed, and for whose categories there is room, is
refused as a whole if and only if it is no object or some category that is read has rules that are
no list. It is refused for no other cause. -/
theorem readSource_refused_iff {room : Nat} (source : String) {d : Data} (hroom : Fits room d)
    (hpatterns : HasReadablePatterns d) (j : Journal) :
    ((∃ e, (readSource room source d j).1 = .error (.source e)) ↔
      (∀ top, d ≠ .object top) ∨ ∃ top category value, d = .object top ∧ Live [] top category ∧
        Data.lookup "patterns" category = some value ∧ ∀ rules, value ≠ .list rules) ∧
    ∀ f, (readSource room source d j).1 ≠ .error (.fault f) := by
  cases d with
  | object top =>
    have hcause : ∀ e ∈ stopsAmong [] .medium room top, ∃ category value key,
        e = .source (.rulesNotList key) ∧ Live [] top category ∧
        Data.lookup "patterns" category = some value ∧ ∀ rules, value ≠ .list rules := by
      intro e he
      obtain ⟨category, hlive, hcause⟩ := exists_cause_of_mem_stopsAmong (hroom top rfl) he
      cases hcause with
      | rules hrules hlist => exact ⟨category, _, _, rfl, hlive, hrules, hlist⟩
      | rule hrules hmem hfault =>
        rw [ruleFault?_eq_none (hpatterns _ _ _ rfl hlive hrules _ hmem)] at hfault
        cases hfault
    rw [readSource, readCategories_fst]
    cases hstops : stopsAmong [] .medium room top with
    | nil =>
      refine ⟨iff_of_false nofun ?_, nofun⟩
      rintro (hobject | ⟨top', category, value, htop, hlive, hrules, hlist⟩)
      · exact hobject top rfl
      · cases htop
        exact stopsAmong_ne_nil hlive hrules hlist .medium room hstops
    | cons e rest =>
      obtain ⟨category, value, key, rfl, hread⟩ := hcause e (hstops ▸ List.mem_cons_self)
      exact ⟨iff_of_true ⟨_, rfl⟩ (.inr ⟨top, category, value, rfl, hread⟩), nofun⟩
  | _ => exact ⟨iff_of_true ⟨.notObject, rfl⟩ (.inl nofun), nofun⟩

/-- The members of a category with a malformed rule, and with one below it whose rules are no
list. -/
def looseCategory : List (String × Data) := [
  ("severity", .text "warning"), ("cwe", .text "CWE-1"),
  ("patterns", .list [.integer 1, .object [("pattern", .text "(")]]),
  ("inner", .object [("patterns", .object [])])]

/-- A category that is passed over, although its rules are no list, and one that is not. -/
def looseSource : List (String × Data) := [
  ("first", .object [("severity", .text "SEVERE"), ("patterns", .integer 1)]),
  ("second", .object looseCategory)]

theorem eq_of_live_looseSource {category : List (String × Data)}
    (h : Live [] looseSource category) :
    category = looseCategory ∨ category = [("patterns", .object [])] := by
  have hsevere : ¬ IsHeaded [("severity", .text "SEVERE"), ("patterns", .integer 1)] := by
    intro h
    obtain ⟨s, hs⟩ := h.severity (.text "SEVERE") rfl
    have hnone : (Severity.ofData (.text "SEVERE")).toOption = none := by decide +kernel
    rw [hs] at hnone
    cases hnone
  have hinner {key : String} {members : List (String × Data)}
      (hmem : (key, .object members) ∈ looseCategory) : members = [("patterns", .object [])] := by
    simp only [looseCategory, List.mem_cons, Prod.mk.injEq, Data.object.injEq, List.not_mem_nil,
      or_false, reduceCtorEq, and_false, false_or] at hmem
    exact hmem.2
  cases h with
  | here hmem hkey hhead =>
    simp only [looseSource, List.mem_cons, Prod.mk.injEq, Data.object.injEq, List.not_mem_nil,
      or_false] at hmem
    obtain ⟨-, rfl⟩ | ⟨-, rfl⟩ := hmem
    · exact absurd hhead hsevere
    · exact .inl rfl
  | inside hmem hkey hhead hbelow =>
    simp only [looseSource, List.mem_cons, Prod.mk.injEq, Data.object.injEq, List.not_mem_nil,
      or_false] at hmem
    obtain ⟨-, rfl⟩ | ⟨-, rfl⟩ := hmem
    · exact absurd hhead hsevere
    · cases hbelow with
      | here hmem hkey hhead => exact .inr (hinner hmem)
      | inside hmem hkey hhead hbelow =>
        rw [hinner hmem] at hbelow
        have hdeepest {key : String} {members : List (String × Data)} (hkey : key ∉ reserved) :
            (key, .object members) ∉ [("patterns", Data.object [])] := by
          intro hmem
          simp only [List.mem_singleton, Prod.mk.injEq] at hmem
          exact hkey (hmem.1 ▸ List.mem_cons_self)
        cases hbelow with
        | here hmem hkey hhead => exact absurd hmem (hdeepest hkey)
        | inside hmem hkey hhead hbelow => exact absurd hmem (hdeepest hkey)

/-- The category that is passed over does no harm; the one whose rules are no list does, although
a category that it is in could be used. -/
theorem readSource_refused_iff_looseSource :
    Fits maxLevels (.object looseSource) ∧ HasReadablePatterns (.object looseSource) ∧
      ∃ e, (readSource maxLevels "s" (.object looseSource) {}).1 = .error (.source e) := by
  have hheaded : IsHeaded looseCategory := by
    refine ⟨fun d hd => ?_, fun d hd => ?_⟩
    · cases hd
      exact ⟨.medium, Stop.eq_ok_of_toOption (by decide +kernel)⟩
    · cases hd
      exact .inl ⟨_, rfl⟩
  have hinner : ("inner", .object [("patterns", .object [])]) ∈ looseCategory := by
    simp [looseCategory]
  have hlive : Live [] looseSource [("patterns", .object [])] :=
    .inside (List.mem_cons_of_mem _ List.mem_cons_self) List.not_mem_nil hheaded
      (.here hinner (by decide) ⟨nofun, nofun⟩)
  have hread : HasReadablePatterns (.object looseSource) := by
    intro top category rules htop hlive hrules rule hrule text htext e hparse
    cases htop
    obtain rfl | rfl := eq_of_live_looseSource hlive
    · have hrules : [.integer 1, .object [("pattern", .text "(")]] = rules := by
        simpa [looseCategory, Data.lookup] using hrules
      subst hrules
      have hmalformed : (match Pattern.parse { ignoreCase := true } "(" with
          | .error e => some e
          | .ok _ => none) = some .malformed := by
        decide +kernel
      simp only [List.mem_cons, List.not_mem_nil, or_false] at hrule
      obtain rfl | rfl := hrule
      · cases htext
      · cases htext
        rw [hparse] at hmalformed
        exact Option.some.inj hmalformed
    · simp [Data.lookup] at hrules
  have hroom : Fits maxLevels (.object looseSource) := by
    intro top htop
    cases htop
    decide +kernel
  exact ⟨hroom, hread, (readSource_refused_iff "s" hroom hread {}).1.2 (.inr
    ⟨looseSource, _, .object [], rfl, hlive, rfl, nofun⟩)⟩

end RuleReview.Rule
