import RuleReview.Proofs.Data
import RuleReview.Proofs.Rule.Load
import RuleReview.Proofs.Rule.Match

/-! Categories in categories. What is of no use in a source has no effect on what is read from it,
at any depth, and the severity of a category is the one that is nearest on its way up. -/

namespace RuleReview.Rule

/-! ### What is passed over -/

/-- The keys under which a category has its head and its rules. -/
def ownKeys : List String := ["title", "severity", "patterns", "cwe", "cwe_mappings"]

/-- A value that gives no category: it is no object, or its own head cannot be used, whatever else
is in it. -/
inductive IsIdle : Data → Prop
  | value {d : Data} (h : d.members? = none) : IsIdle d
  | category {members : List (String × Data)} (h : ¬ IsHeaded members) : IsIdle (.object members)

/-- Members of a source or of a category get one more thing that is of no use, right there or in a
category at any depth: a rule that is left out, or a member that gives no category. -/
inductive Padded : List (String × Data) → List (String × Data) → Prop
  | rule (before after : List (String × Data)) (rules rules' : List Data) {d : Data} {e : Defect}
    (hread : read d = .error (.defect e)) :
    Padded (before ++ ("patterns", .list (rules ++ rules')) :: after)
      (before ++ ("patterns", .list (rules ++ d :: rules')) :: after)
  | member (before after : List (String × Data)) {key : String} {d : Data} (hkey : key ∉ ownKeys)
    (hidle : IsIdle d) : Padded (before ++ after) (before ++ (key, d) :: after)
  | inside (before after : List (String × Data)) (key : String)
    {members members' : List (String × Data)} (h : Padded members members') :
    Padded (before ++ (key, .object members) :: after) (before ++ (key, .object members') :: after)

variable {ms ms' : List (String × Data)}

/-- Two values are the same or both are objects. -/
inductive Alike : Option Data → Option Data → Prop
  | refl (value : Option Data) : Alike value value
  | objects (members members' : List (String × Data)) :
    Alike (some (.object members)) (some (.object members'))

theorem Alike.or {a b a' b' : Option Data} (h : Alike a b) (h' : Alike a' b') :
    Alike (a.or a') (b.or b') := by
  cases h with
  | refl =>
    cases a with
    | none => exact h'
    | some d => exact .refl _
  | objects members members' => exact .objects members members'

/-- What does not look into objects is the same of values that are alike. -/
theorem Alike.congr {α : Type} {a b : Option Data} (h : Alike a b) (f : Option Data → α)
    (hf : ∀ members members', f (some (.object members')) = f (some (.object members))) :
    f b = f a := by
  cases h with
  | refl => rfl
  | objects members members' => exact hf members members'

theorem Padded.alike (h : Padded ms ms') {key : String} (hkey : key ∈ ownKeys)
    (hrules : "patterns" ≠ key) : Alike (Data.lookup key ms) (Data.lookup key ms') := by
  cases h with
  | rule before after rules rules' hread =>
    simp only [Data.lookup_append, Data.lookup, if_neg hrules]
    exact .refl _
  | @member before after k d hk hidle =>
    have hne : k ≠ key := fun he => hk (he ▸ hkey)
    simp only [Data.lookup_append, Data.lookup, if_neg hne]
    exact .refl _
  | @inside before after k members members' h =>
    simp only [Data.lookup_append, Data.lookup]
    refine Alike.or (.refl _) ?_
    split
    next => exact .objects members members'
    next => exact .refl _

theorem Padded.readHead_eq (h : Padded ms ms') (key : String) (inherited : Severity) :
    readHead key inherited ms' = readHead key inherited ms := by
  have hseverity : severityIn inherited ms' = severityIn inherited ms := by
    have halike : Alike (Data.lookup "severity" ms) (Data.lookup "severity" ms') :=
      h.alike (by decide) (by decide)
    rw [severityIn, severityIn, ownSeverity?, ownSeverity?]
    generalize Data.lookup "severity" ms = a at halike
    generalize Data.lookup "severity" ms' = b at halike
    cases halike <;> rfl
  have htitle : givenText? (Data.lookup "title" ms') = givenText? (Data.lookup "title" ms) :=
    Alike.congr (h.alike (by decide) (by decide)) givenText? fun _ _ => rfl
  have hcwe : readCwe ((ownCwe? ms').getD (.list [])) = readCwe ((ownCwe? ms).getD (.list [])) :=
    Alike.congr ((h.alike (by decide) (by decide)).or (h.alike (by decide) (by decide)))
      (fun value => readCwe (value.getD (.list []))) fun _ _ => rfl
  rw [Rule.readHead_eq, Rule.readHead_eq, hseverity, htitle, hcwe]

/-- What the rules of a category come to: what stops the reading among them, and those that are
usable. -/
def rulesOf (key : String) (members : List (String × Data)) :
    Except LoadError (List Fault × List Rule) :=
  (ruleList key members).map fun rules => (rules.filterMap ruleFault?, usableRules rules)

/-- A rule that is left out does not stop the reading. -/
theorem filterMap_insert {d : Data} {e : Defect} (hread : read d = .error (.defect e))
    (rules rules' : List Data) :
    (rules ++ d :: rules').filterMap ruleFault? = (rules ++ rules').filterMap ruleFault? ∧
      usableRules (rules ++ d :: rules') = usableRules (rules ++ rules') := by
  have hfault : ruleFault? d = none := by
    cases hfault : ruleFault? d with
    | none => rfl
    | some f =>
      rw [read_eq_error_fault.2 hfault] at hread
      cases hread
  simp [usableRules, hfault, hread, Except.toOption]

theorem Padded.rulesOf_eq (h : Padded ms ms') (key : String) :
    rulesOf key ms' = rulesOf key ms := by
  cases h with
  | rule before after rules rules' hread =>
    obtain ⟨hfaults, husable⟩ := filterMap_insert hread rules rules'
    rw [rulesOf, rulesOf, ruleList, ruleList, Data.lookup_append, Data.lookup_append]
    cases Data.lookup "patterns" before with
    | none => simp [Data.lookup, Except.map, hfaults, husable]
    | some d => rfl
  | @member before after k d hk hidle =>
    have hne : k ≠ "patterns" := fun he => hk (he ▸ by decide)
    rw [rulesOf, rulesOf, ruleList, ruleList, Data.lookup_append, Data.lookup_append, Data.lookup,
      if_neg hne]
  | @inside before after k members members' h =>
    rw [rulesOf, rulesOf, ruleList, ruleList, Data.lookup_append, Data.lookup_append, Data.lookup,
      Data.lookup]
    cases Data.lookup "patterns" before with
    | none => by_cases hk : k = "patterns" <;> simp [hk]
    | some d => rfl

theorem stops_object (key : String) (inherited : Severity) (room : Nat)
    (members : List (String × Data)) : stops key inherited room (.object members) =
      match readHead key inherited members, room, rulesOf key members with
      | .error _, _, _ => []
      | .ok _, 0, _ => [.fault .tooDeepRules]
      | .ok _, _ + 1, .error e => [e]
      | .ok head, room + 1, .ok (faults, _) =>
        faults.map .fault ++ stopsAmong reserved head.severity room members := by
  rw [stops, rulesOf]
  cases readHead key inherited members with
  | error e => rfl
  | ok head =>
    cases room with
    | zero => rfl
    | succ room => cases ruleList key members <;> rfl

theorem usableCategory_object (key : String) (inherited : Severity)
    (members : List (String × Data)) : usableCategory key inherited (.object members) =
      match readHead key inherited members with
      | .error _ => none
      | .ok head => some (.mk key head.title head.severity
        ((rulesOf key members).toOption.elim [] Prod.snd)
        (usableAmong reserved head.severity members) head.cwe) := by
  rw [usableCategory, rulesOf]
  cases readHead key inherited members with
  | error e => rfl
  | ok head => cases ruleList key members <;> rfl

theorem IsIdle.stops_eq {d : Data} (h : IsIdle d) (key : String) (inherited : Severity)
    (room : Nat) : stops key inherited room d = [] ∧ usableCategory key inherited d = none := by
  cases h with
  | value h =>
    cases d with
    | object members => cases h
    | _ => exact ⟨rfl, rfl⟩
  | @category members h =>
    cases hhead : readHead key inherited members with
    | error e =>
      rw [stops_object, usableCategory_object, hhead]
      exact ⟨rfl, rfl⟩
    | ok head => exact absurd ((isHeaded_iff key inherited members).2 ⟨head, hhead⟩) h

/-- One more thing that is of no use changes neither what stops the reading nor what is read. -/
theorem Padded.among_eq (h : Padded ms ms') (except : List String) (inherited : Severity)
    (room : Nat) : stopsAmong except inherited room ms' = stopsAmong except inherited room ms ∧
      usableAmong except inherited ms' = usableAmong except inherited ms := by
  induction h generalizing except inherited room with
  | rule before after rules rules' hread =>
    -- rules count in the category that has them; as a member, a list is no category
    simp only [stopsAmong_eq, usableAmong_eq, List.flatMap_append, List.flatMap_cons]
    exact ⟨rfl, rfl⟩
  | @member before after key d hkey hidle =>
    obtain ⟨hstops, husable⟩ := hidle.stops_eq key inherited room
    simp [stopsAmong_eq, usableAmong_eq, hstops, husable]
  | @inside before after key members members' h ih =>
    -- the head is as before, and so is the severity that is handed down
    have hstops : stops key inherited room (.object members') =
        stops key inherited room (.object members) := by
      simp only [stops_object, h.readHead_eq, h.rulesOf_eq, ih]
    have hbelow (severity : Severity) := (ih reserved severity room).2
    have husable : usableCategory key inherited (.object members') =
        usableCategory key inherited (.object members) := by
      simp only [usableCategory_object, h.readHead_eq, h.rulesOf_eq, hbelow]
    simp only [stopsAmong_eq, usableAmong_eq, List.flatMap_append, List.flatMap_cons, hstops,
      husable, and_self]

/-- A source with one more rule that is left out, or one more member that gives no category,
anywhere in it, has the same categories, or is refused for the same cause, however much room there
is for categories in categories. -/
theorem readSource_of_padded {top top' : List (String × Data)} (h : Padded top top') (room : Nat)
    (source : String) (j j' : Journal) :
    (readSource room source (.object top') j').1 = (readSource room source (.object top) j).1 := by
  obtain ⟨hstops, husable⟩ := h.among_eq [] .medium room
  rw [readSource, readSource, readCategories_fst, readCategories_fst, hstops, husable]

def sampleRule : Data := .object [("pattern", .text "x"), ("description", .text "Xs")]

/-- A source whose rules are in a category within another one, which has a severity and weaknesses
of its own. -/
def nestedSource (rules : List Data) : List (String × Data) := [
  ("version", .text "1"),
  ("group", .object [("severity", .text "HIGH"), ("cwe", .text "CWE-1"),
    ("inner", .object [("severity", .null), ("patterns", .list rules)])])]

/-- A malformed rule is passed over beside one that is usable. -/
theorem readSource_of_padded_nestedSource :
    Padded (nestedSource [sampleRule])
      (nestedSource [.object [("pattern", .text "(")], sampleRule]) ∧
    (readSource maxLevels "s"
        (.object (nestedSource [.object [("pattern", .text "(")], sampleRule])) {}).1 =
      (readSource maxLevels "s" (.object (nestedSource [sampleRule])) {}).1 := by
  have hread : read (.object [("pattern", .text "(")]) = .error (.defect (.badPattern "(")) :=
    Stop.mem_causes.1 (by decide +kernel)
  have hinner := Padded.rule [("severity", .null)] [] [] [sampleRule] hread
  have hgroup :=
    Padded.inside [("severity", .text "HIGH"), ("cwe", .text "CWE-1")] [] "inner" hinner
  have hpadded : Padded (nestedSource [sampleRule])
      (nestedSource [.object [("pattern", .text "(")], sampleRule]) :=
    .inside [("version", .text "1")] [] "group" hgroup
  exact ⟨hpadded, readSource_of_padded hpadded maxLevels "s" {} {}⟩

/-! ### Inheritance -/

/-- Categories from one up to one of a list: each is right below the next one. -/
inductive Lineage (cs : List Category) : List Category → Prop
  | top {c : Category} (h : c ∈ cs) : Lineage cs [c]
  | child {c parent : Category} {above : List Category} (h : c ∈ parent.children)
    (habove : Lineage cs (parent :: above)) : Lineage cs (c :: parent :: above)

/-- Objects from one up to a member of a source, each under its key: each is a member of the next
one that may be a category. -/
inductive Descent (top : List (String × Data)) : List (String × List (String × Data)) → Prop
  | top {key : String} {members : List (String × Data)} (h : (key, .object members) ∈ top) :
    Descent top [(key, members)]
  | member {key : String} {members : List (String × Data)}
    {parent : String × List (String × Data)} {above : List (String × List (String × Data))}
    (h : (key, .object members) ∈ parent.2) (hkey : key ∉ reserved)
    (habove : Descent top (parent :: above)) : Descent top ((key, members) :: parent :: above)

/-- The severity of nested objects is the one that the innermost of those that give one gives, or
medium where none does. -/
def HasSeverity (path : List (String × List (String × Data))) (s : Severity) : Prop :=
  match path.findSome? fun object => ownSeverity? object.2 with
  | none => s = .medium
  | some d => Severity.ofData d = .ok s

theorem hasSeverity_nil : HasSeverity [] .medium := rfl

theorem HasSeverity.cons {path : List (String × List (String × Data))} {inherited s : Severity}
    (h : HasSeverity path inherited) {members : List (String × Data)}
    (hown : GivesSeverity inherited members s) (key : String) :
    HasSeverity ((key, members) :: path) s := by
  rw [HasSeverity, List.findSome?_cons]
  rw [GivesSeverity] at hown
  cases hvalue : ownSeverity? members with
  | none =>
    rw [hvalue] at hown
    obtain rfl := hown
    exact h
  | some d =>
    rw [hvalue] at hown
    exact hown

/-- What a category that is read has from its object. -/
theorem of_usableCategory {key : String} {inherited : Severity} {d : Data} {c : Category}
    (h : usableCategory key inherited d = some c) : ∃ members, d = .object members ∧
      c.key = key ∧ GivesSeverity inherited members c.severity ∧ GivesCwe members c.cwe ∧
      c.children = usableAmong reserved c.severity members := by
  cases d with
  | object members =>
    rw [usableCategory] at h
    cases hhead : readHead key inherited members with
    | error e =>
      rw [hhead] at h
      cases h
    | ok head =>
      rw [hhead] at h
      cases h
      obtain ⟨-, hseverity, hcwe⟩ := readHead_eq_ok_iff.1 hhead
      exact ⟨members, rfl, rfl, hseverity, hcwe, rfl⟩
  | _ => cases h

/-- Each category that is read stands where its object does, and has its severity from there. -/
theorem exists_descent {top : List (String × Data)} {c : Category} {above : List Category}
    (h : Lineage (usableAmong [] .medium top) (c :: above)) :
    ∃ members path, Descent top ((c.key, members) :: path) ∧
      path.map Prod.fst = above.map Category.key ∧
      HasSeverity ((c.key, members) :: path) c.severity ∧ GivesCwe members c.cwe ∧
      c.children = usableAmong reserved c.severity members := by
  generalize hlineage : c :: above = lineage at h
  -- what the children are is carried along: the next category down is one of them
  induction h generalizing c above with
  | top hmem =>
    cases hlineage
    obtain ⟨key, d, hmember, -, hread⟩ := mem_usableAmong.1 hmem
    obtain ⟨members, rfl, rfl, hseverity, hcwe, hchildren⟩ := of_usableCategory hread
    exact ⟨members, [], .top hmember, rfl, hasSeverity_nil.cons hseverity _, hcwe, hchildren⟩
  | child hmem habove ih =>
    cases hlineage
    obtain ⟨members, path, hdescent, hkeys, hsev, -, hchildren⟩ := ih rfl
    rw [hchildren] at hmem
    obtain ⟨key, d, hmember, hkey, hread⟩ := mem_usableAmong.1 hmem
    obtain ⟨members', rfl, rfl, hseverity, hcwe, hchildren'⟩ := of_usableCategory hread
    exact ⟨members', _, .member hmember hkey hdescent,
      by rw [List.map_cons, hkeys, List.map_cons], hsev.cons hseverity _, hcwe, hchildren'⟩

/-- What is read of an object whose head can be used. -/
theorem exists_usableCategory {members : List (String × Data)} (h : IsHeaded members) (key : String)
    (inherited : Severity) : ∃ c, usableCategory key inherited (.object members) = some c ∧
      c.key = key ∧ c.children = usableAmong reserved c.severity members := by
  obtain ⟨head, hhead⟩ := (isHeaded_iff key inherited members).1 h
  rw [usableCategory, hhead]
  exact ⟨_, rfl, rfl, rfl⟩

/-- An object whose head can be used is read as a category, if those that it is in are. -/
theorem exists_lineage {top : List (String × Data)} {object : String × List (String × Data)}
    {above : List (String × List (String × Data))} (h : Descent top (object :: above))
    (hheaded : ∀ o ∈ object :: above, IsHeaded o.2) :
    ∃ c lineage, Lineage (usableAmong [] .medium top) (c :: lineage) ∧ c.key = object.1 ∧
      lineage.map Category.key = above.map Prod.fst ∧
      c.children = usableAmong reserved c.severity object.2 := by
  generalize hpath : object :: above = path at h
  induction h generalizing object above with
  | @top key members hmem =>
    cases hpath
    obtain ⟨c, hread, hkey, hchildren⟩ :=
      exists_usableCategory (hheaded _ List.mem_cons_self) key .medium
    exact ⟨c, [], .top (mem_usableAmong.2 ⟨key, _, hmem, List.not_mem_nil, hread⟩), hkey, rfl,
      hchildren⟩
  | @member key members parent above hmem hnot habove ih =>
    cases hpath
    obtain ⟨p, lineage, hlineage, hkeyp, hkeys, hchildrenp⟩ :=
      ih (fun o ho => hheaded o (List.mem_cons_of_mem _ ho)) rfl
    obtain ⟨c, hread, hkey, hchildren⟩ :=
      exists_usableCategory (hheaded _ List.mem_cons_self) key p.severity
    have hc : c ∈ p.children := by
      rw [hchildrenp]
      exact mem_usableAmong.2 ⟨key, _, hmem, hnot, hread⟩
    exact ⟨c, p :: lineage, .child hc hlineage, hkey,
      by rw [List.map_cons, List.map_cons, hkeyp, hkeys], hchildren⟩

theorem Lineage.append {cs : List Category} {c : Category} {lineage above : List Category}
    (h : Lineage c.children lineage) (habove : Lineage cs (c :: above)) :
    Lineage cs (lineage ++ c :: above) := by
  induction h with
  | top h => exact .child h habove
  | child h _ ih => exact .child h ih

theorem Lineage.mono {cs cs' lineage : List Category} (h : Lineage cs lineage) (hsub : cs ⊆ cs') :
    Lineage cs' lineage := by
  induction h with
  | top h => exact .top (hsub h)
  | child h _ ih => exact .child h ih

mutual

theorem exists_lineage_of_mem_walk (p : Category) {c : Category} (h : c ∈ p.walk) :
    c = p ∨ ∃ above, Lineage p.children (c :: above) := by
  cases p with
  | mk key title severity rules children cwe =>
    rw [Category.walk] at h
    rcases List.mem_cons.1 h with rfl | h
    · exact .inl rfl
    · exact .inr (exists_lineage_of_mem_walkAll children h)

theorem exists_lineage_of_mem_walkAll (cs : List Category) {c : Category}
    (h : c ∈ Category.walkAll cs) : ∃ above, Lineage cs (c :: above) := by
  cases cs with
  | nil => cases h
  | cons p cs =>
    rw [Category.walkAll] at h
    rcases List.mem_append.1 h with h | h
    · rcases exists_lineage_of_mem_walk p h with rfl | ⟨above, habove⟩
      · exact ⟨[], .top List.mem_cons_self⟩
      · exact ⟨_, habove.append (.top List.mem_cons_self)⟩
    · obtain ⟨above, habove⟩ := exists_lineage_of_mem_walkAll cs h
      exact ⟨above, habove.mono (List.subset_cons_self p cs)⟩

end

theorem eq_usableAmong_of_readSource {room : Nat} {source : String} {top : List (String × Data)}
    {j : Journal} {cs : List Category} (h : (readSource room source (.object top) j).1 = .ok cs) :
    cs = usableAmong [] .medium top := by
  rw [readSource, readCategories_fst] at h
  exact (Stop.barring_eq_ok.1 h).2.symm

/-- Where in a source a category with those above it is read from, and what it has from there. Its
weaknesses are those of its own object; its severity is the one that is nearest on the way up. -/
def IsReadAt (top : List (String × Data)) (c : Category) (above : List Category) : Prop :=
  ∃ members path, Descent top ((c.key, members) :: path) ∧
    path.map Prod.fst = above.map Category.key ∧
    HasSeverity ((c.key, members) :: path) c.severity ∧ GivesCwe members c.cwe

/-- Each category of a source that is read stands where an object does, and has the severity that is
nearest on its way up. Each object whose head and the heads above can be used gives a category. The
issues of a category have its severity, its own weaknesses and the impact of its key. -/
theorem severity_inherited {room : Nat} (source : String) {top : List (String × Data)}
    {j : Journal} {cs : List Category}
    (hread : (readSource room source (.object top) j).1 = .ok cs) :
    (∀ c above, Lineage cs (c :: above) → IsReadAt top c above) ∧
    (∀ object above, Descent top (object :: above) → (∀ o ∈ object :: above, IsHeaded o.2) →
      ∃ c lineage, Lineage cs (c :: lineage) ∧ c.key = object.1 ∧
        lineage.map Category.key = above.map Prod.fst) ∧
    ∀ (col : Collection) (language : String) (code : List Char), col.categories ⊆ cs →
      ∀ i ∈ col.issues language code, ∃ c above r m,
        Lineage cs (c :: above) ∧ IsReadAt top c above ∧ r ∈ c.rules ∧
        m ∈ findMatches r.pattern code ∧ i = issueOf col.name col.kind c r m ∧
        i.severity = c.severity ∧ i.impact = impactOf c.key ∧ i.cwe = c.cwe := by
  obtain rfl := eq_usableAmong_of_readSource hread
  have hat (c : Category) (above : List Category)
      (h : Lineage (usableAmong [] .medium top) (c :: above)) : IsReadAt top c above := by
    obtain ⟨members, path, hdescent, hkeys, hseverity, hcwe, -⟩ := exists_descent h
    exact ⟨members, path, hdescent, hkeys, hseverity, hcwe⟩
  refine ⟨hat, fun object above hdescent hheaded => ?_, fun col language code hsub i hi => ?_⟩
  · obtain ⟨c, lineage, hlineage, hkey, hkeys, -⟩ := exists_lineage hdescent hheaded
    exact ⟨c, lineage, hlineage, hkey, hkeys⟩
  · obtain ⟨c, hc, r, hr, -, m, hm, rfl⟩ := Collection.mem_issues_iff.1 hi
    obtain ⟨above, hlineage⟩ := exists_lineage_of_mem_walkAll col.categories hc
    have hlineage := hlineage.mono hsub
    exact ⟨c, above, r, m, hlineage, hat c above hlineage, hr, hm, rfl, rfl, rfl, rfl⟩

/-- A null is no severity: the issue has that of the outer category, and no weakness. -/
theorem severity_inherited_nestedSource : ∃ cs,
    (readSource maxLevels "s" (.object (nestedSource [sampleRule])) {}).1 = .ok cs ∧
    (Collection.issues { name := "s", categories := cs } "python" ['x']).map
      (fun i => (i.severity, i.cwe)) = [(.high, [])] ∧
    ∀ i ∈ Collection.issues { name := "s", categories := cs } "python" ['x'], ∃ c above,
      IsReadAt (nestedSource [sampleRule]) c above ∧ i.severity = c.severity := by
  have hread : (readSource maxLevels "s" (.object (nestedSource [sampleRule])) {}).1 =
      .ok (usableAmong [] .medium (nestedSource [sampleRule])) := by
    rw [readSource, readCategories_fst]
    exact Stop.barring_eq_ok.2 ⟨by decide +kernel, rfl⟩
  refine ⟨_, hread, by decide +kernel, fun i hi => ?_⟩
  obtain ⟨c, above, -, -, -, hat, -, -, -, hseverity, -⟩ :=
    (severity_inherited "s" hread).2.2 _ _ _ (List.Subset.refl _) i hi
  exact ⟨c, above, hat, hseverity⟩

end RuleReview.Rule
