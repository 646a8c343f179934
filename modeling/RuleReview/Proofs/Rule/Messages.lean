import RuleReview.Proofs.Rule.Match
import RuleReview.Proofs.Rule.Source
import RuleReview.Proofs.Rule.Walk

/-! What rules may say. The titles of messages are in the data of a source and can be told without
reading a pattern. Proved: the sources that come with the library do not say the same about
quality and about security. -/

namespace RuleReview

namespace Rule

/-! ### Messages of collections -/

/-- What the issues of a category of some rules say, with their severity. -/
def Category.messages (c : Category) : List (Severity × String) :=
  c.rules.map fun r => (c.severity, c.title ++ ": " ++ r.description)

/-- What the issues of a collection say, with their severities. -/
def Collection.messages (col : Collection) : List (Severity × String) :=
  col.walk.flatMap Category.messages

theorem Collection.mem_messages_of_mem_issues {col : Collection} {language : String}
    {code : List Char} {i : Issue} (h : i ∈ col.issues language code) :
    (i.severity, i.message) ∈ col.messages ∧ i.kind = col.kind := by
  obtain ⟨c, hc, r, hr, -, m, -, rfl⟩ := mem_issues_iff.1 h
  exact ⟨List.mem_flatMap.2 ⟨c, hc, List.mem_map_of_mem hr⟩, rfl⟩

/-- Messages hold a colon between the title and the description. -/
theorem Collection.colon_mem_of_mem_messages {col : Collection} {m : Severity × String}
    (h : m ∈ col.messages) : ':' ∈ m.2.toList := by
  obtain ⟨c, -, hm⟩ := List.mem_flatMap.1 h
  obtain ⟨r, -, rfl⟩ := List.mem_map.1 hm
  simp

/-- A collection with some of its categories says nothing new. -/
theorem Collection.messages_filter_subset (col : Collection) (p : Category → Bool) :
    { col with categories := col.categories.filter p }.messages ⊆ col.messages := by
  intro m hm
  obtain ⟨c, hc, hm⟩ := List.mem_flatMap.1 hm
  exact List.mem_flatMap.2 ⟨c, walkAll_filter_subset p _ hc, hm⟩

/-- Whether the rules about quality are as grave as those about security that say the same. -/
def Concordant (cs : List Collection) : Prop :=
  ∀ q ∈ cs, q.kind ≠ .security → ∀ s ∈ cs, s.kind = .security →
    ∀ a ∈ q.messages, ∀ b ∈ s.messages, a.2 = b.2 → b.1.rank ≤ a.1.rank

/-! ### Titles in data -/

def titleIn (key : String) (members : List (String × Data)) : String :=
  (givenText? (Data.lookup "title" members)).getD (Text.strip (titleOfKey key))

mutual

/-- The titles that an object has as a category, its own and those below it. -/
def titles (key : String) : Data → List String
  | .object members => titleIn key members :: titlesAmong reserved members
  | _ => []

/-- The titles of the categories among members, but for some keys. -/
def titlesAmong (except : List String) : List (String × Data) → List String
  | [] => []
  | (key, d) :: rest =>
    (if except.contains key then [] else titles key d) ++ titlesAmong except rest

end

theorem title_of_readHead {key : String} {inherited : Severity} {members : List (String × Data)}
    {head : Head} (h : readHead key inherited members = .ok head) :
    head.title = titleIn key members :=
  (readHead_eq_ok_iff.1 h).1

mutual

theorem titles_usableCategory_subset (key : String) (inherited : Severity) (d : Data) :
    (Category.walkAll (usableCategory key inherited d).toList).map Category.title ⊆
      titles key d := by
  cases d with
  | object members =>
    rw [usableCategory, titles]
    cases hhead : readHead key inherited members with
    | error e => exact List.nil_subset _
    | ok head =>
      simp only [Option.toList_some, Category.walkAll, Category.walk, List.append_nil,
        List.map_cons, Category.title, title_of_readHead hhead]
      exact List.cons_subset_cons (titleIn key members)
        (titles_usableAmong_subset reserved head.severity members)
  | _ => exact List.nil_subset _

theorem titles_usableAmong_subset (except : List String) (inherited : Severity)
    (members : List (String × Data)) :
    (Category.walkAll (usableAmong except inherited members)).map Category.title ⊆
      titlesAmong except members := by
  cases members with
  | nil => exact List.nil_subset _
  | cons m rest =>
    obtain ⟨key, d⟩ := m
    rw [usableAmong, titlesAmong, walkAll_append, List.map_append]
    refine List.append_subset.2 ⟨?_, ?_⟩
    · split
      next => exact List.nil_subset _
      next =>
        exact List.Subset.trans (titles_usableCategory_subset key inherited d)
          (List.subset_append_left _ _)
    · exact List.Subset.trans (titles_usableAmong_subset except inherited rest)
        (List.subset_append_right _ _)

end

/-! ### The sources that come with the library -/

/-- Whether a text starts with the number of a risk. -/
def isNumbered (s : String) : Bool :=
  match s.toList with
  | 'A' :: c :: _ => c.isDigit
  | _ => false

/-- The title tells whether a message starts with the number of a risk. -/
theorem isNumbered_message (title description : String) :
    isNumbered (title ++ ": " ++ description) = isNumbered title := by
  simp only [isNumbered, String.toList_append]
  obtain _ | ⟨a, _ | ⟨b, cs⟩⟩ := title.toList
  · rfl
  · by_cases ha : a = 'A'
    · subst ha
      rfl
    · simp [ha]
  · by_cases ha : a = 'A'
    · subst ha
      rfl
    · simp [ha]

namespace Source

/-- The titles in the data of a source that comes with the library. -/
def titles (s : Source) : List String :=
  match s.location with
  | .builtin (.object members) => titlesAmong [] members
  | _ => []

theorem isNumbered_titles :
    ∀ s ∈ builtin, ∀ title ∈ s.titles, isNumbered title = (s.kind == .security) := by
  decide +kernel

theorem exists_members_of_mem_builtin {s : Source} (hs : s ∈ builtin) :
    ∃ members, s.location = .builtin (.object members) := by
  simp only [builtin, List.mem_cons, List.not_mem_nil, or_false] at hs
  rcases hs with rfl | rfl | rfl | rfl | rfl <;> exact ⟨_, rfl⟩

theorem title_mem_titles {s : Source} (hs : s ∈ builtin) (w : Workspace) {c : Category}
    (hc : c ∈ Category.walkAll (use (s.data w)).categories) : c.title ∈ s.titles := by
  obtain ⟨members, hmembers⟩ := exists_members_of_mem_builtin hs
  rw [data, hmembers] at hc
  rw [titles, hmembers]
  dsimp only [use] at hc
  split at hc
  next => exact titles_usableAmong_subset [] .medium members (List.mem_map_of_mem hc)
  next => cases hc
  next => cases hc

/-- Of the sources that come with the library, those about security number what they say. -/
theorem isNumbered_of_mem_messages {s : Source} (hs : s ∈ builtin) (w : Workspace)
    {m : Severity × String} (hm : m ∈ (s.collection (use (s.data w)).categories).messages) :
    isNumbered m.2 = (s.kind == .security) := by
  obtain ⟨c, hc, hm⟩ := List.mem_flatMap.1 hm
  obtain ⟨r, -, rfl⟩ := List.mem_map.1 hm
  rw [isNumbered_message]
  exact isNumbered_titles s hs c.title (title_mem_titles hs w hc)

/-- The sources that come with the library do not say the same about quality and security. -/
theorem concordant_builtin (w : Workspace) {ss : List Source} (hss : ss ⊆ builtin) :
    Concordant (ss.map fun s => s.collection (use (s.data w)).categories) := by
  intro q hq hquality s hs hsecurity a ha b hb hsame
  obtain ⟨q, hqss, rfl⟩ := List.mem_map.1 hq
  obtain ⟨s, hsss, rfl⟩ := List.mem_map.1 hs
  have ha := isNumbered_of_mem_messages (hss hqss) w ha
  have hb := isNumbered_of_mem_messages (hss hsss) w hb
  rw [hsame, hb] at ha
  have hkind : (q.kind == .security) = true := ha ▸ beq_iff_eq.2 hsecurity
  exact absurd (beq_iff_eq.1 hkind) hquality

end Source

end Rule

end RuleReview
