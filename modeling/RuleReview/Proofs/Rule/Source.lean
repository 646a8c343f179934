import RuleReview.Proofs.Rule.Load
import RuleReview.Proofs.Workspace
import RuleReview.Rule.Source

/-! Loading sources gives one collection for each, made of what its own file holds, unless
some file holds what ends the loading of all of them. -/

namespace RuleReview

namespace Workspace

/-- A text is not read for a cause that concerns its file, or because its path has a
character that no path may have. -/
theorem readText_eq_error {w : Workspace} {path : Path} {f : Fault}
    (h : w.readText path = .error f) : Rule.Source.isUnreadable f ∨ f = .nulInPath := by
  rw [readText] at h
  cases hpath : w.readBytes path with
  | error f' =>
    rw [hpath] at h
    obtain rfl : f' = f := by simpa using h
    rcases readBytes_eq_error hpath with rfl | rfl | rfl | rfl | rfl
    · exact .inl rfl
    · exact .inl rfl
    · exact .inl rfl
    · exact .inl rfl
    · exact .inr rfl
  | ok content =>
    rw [hpath] at h
    dsimp only at h
    split at h
    next => cases h
    next => cases h; exact .inl rfl

end Workspace

namespace Rule.Source

/-- The data of a source: its own, or those that its file holds. -/
def data (w : Workspace) (s : Source) : Except Fault Data :=
  match s.location with
  | .builtin d => .ok d
  | .file path =>
    match w.readText path with
    | .error f => .error f
    | .ok text => (Json.read text).mapError .ofJson

/-- What comes of a source: its categories are used, it is not used, or it ends the loading
of all sources. -/
inductive Use
  | used (categories : List Category)
  | unused
  | fault (f : Fault)

/-- Whether a cause for which there are no data is not handled. -/
def escapes : Fault → Bool
  | .nulInPath | .tooManyDigits _ | .tooDeepJson _ => true
  | _ => false

/-- What comes of what is found of a source. -/
def use : Except Fault Data → Use
  | .error f => if escapes f then .fault f else .unused
  | .ok (.object members) =>
    match stopsAmong [] .medium maxLevels members with
    | [] => .used (usableAmong [] .medium members)
    | .source _ :: _ => .unused
    | .fault f :: _ => .fault f
  | .ok _ => .unused

def Use.categories : Use → List Category
  | used categories => categories
  | _ => []

/-- The cause for which the loading ends. -/
def Use.fault? : Use → Option Fault
  | fault f => some f
  | _ => none

/-- The collection that a source gives, or the cause for which it gives none. -/
def Use.result (s : Source) (u : Use) : Except Fault Collection :=
  Stop.barring u.fault?.toList (s.collection u.categories)

theorem ofData_fst (s : Source) (d : Data) (j : Journal) :
    (s.ofData d j).1 = (use (.ok d)).result s := by
  have hattempt : ((readSource maxLevels s.name d).attempt : LogM Fault _) j =
      (.ok (readSource maxLevels s.name d j).1, (readSource maxLevels s.name d j).2) := rfl
  rw [ofData, Stop.fst_bind, hattempt]
  cases d with
  | object members =>
    simp only [readSource, readCategories_fst, use]
    cases hstops : stopsAmong [] .medium maxLevels members with
    | nil => rfl
    | cons e rest => cases e <;> rfl
  | _ => rfl

theorem load_fst (w : Workspace) (s : Source) (j : Journal) :
    (s.load w j).1 = (use (s.data w)).result s := by
  rw [load, data]
  cases s.location with
  | builtin d => exact ofData_fst s d j
  | file path =>
    dsimp only
    cases htext : w.readText path with
    | error f =>
      have hcause := Workspace.readText_eq_error htext
      dsimp only
      rcases hcause with hcause | rfl
      · rw [if_pos hcause, use]
        cases f <;> first | rfl | cases hcause
      · rfl
    | ok text =>
      dsimp only
      cases hjson : Json.read text with
      | ok d => exact ofData_fst s d j
      | error e => cases e <;> rfl

theorem loadEach_fst (w : Workspace) (ss : List Source) (j : Journal) :
    (loadEach w ss j).1 = Stop.barring (ss.filterMap fun s => (use (s.data w)).fault?)
      (ss.map fun s => s.collection (use (s.data w)).categories) := by
  induction ss generalizing j with
  | nil => rfl
  | cons s ss ih =>
    have hfaults : ((s :: ss).filterMap fun s => (use (s.data w)).fault?) =
        (use (s.data w)).fault?.toList ++ ss.filterMap fun s => (use (s.data w)).fault? := by
      cases hfault : (use (s.data w)).fault? <;> simp [hfault]
    simp only [loadEach, Stop.fst_bind, load_fst, Use.result, ih]
    rw [hfaults]
    exact Stop.barring_bind (Stop.map_barring _ _ _)

theorem logCounts_fst (cs : List Collection) (j : Journal) : (logCounts cs j).1 = .ok () := by
  rw [logCounts, Stop.fst_bind, Stop.forIn_fst fun c s => rfl]
  rfl

theorem loadAll_fst (w : Workspace) (ss : List Source) (j : Journal) :
    (loadAll w ss j).1 = Stop.barring (ss.filterMap fun s => (use (s.data w)).fault?)
      (ss.map fun s => s.collection (use (s.data w)).categories) := by
  simp only [loadAll, Stop.fst_bind, loadEach_fst, logCounts_fst]
  cases ss.filterMap fun s => (use (s.data w)).fault? <;> rfl

/-- Loading gives one collection for each source, in their order, unless the text of a file or a
pattern in it is refused for a cause that is not handled; then the first such cause ends it. -/
theorem loadAll_outcome (w : Workspace) (ss : List Source) :
    (∀ cs, (loadAll w ss).outcome.1 = .ok cs ↔
      (∀ s ∈ ss, (use (s.data w)).fault? = none) ∧
        cs = ss.map fun s =>
          ⟨s.name, s.kind, (use (s.data w)).categories, s.language, s.aboutFrameworks⟩) ∧
    (∀ f, (loadAll w ss).outcome.1 = .error f ↔
      (ss.filterMap fun s => (use (s.data w)).fault?).head? = some f) ∧
    ∀ (w' : Workspace) (s : Source),
      (∀ path, s.location = .file path → w'.readText path = w.readText path) →
        s.data w' = s.data w := by
  have hrun : (loadAll w ss).outcome.1 = _ := loadAll_fst w ss {}
  refine ⟨fun cs => ?_, fun f => ?_, fun w' s hsame => ?_⟩
  · rw [hrun, Stop.barring_eq_ok, List.filterMap_eq_nil_iff, eq_comm (b := cs)]
    rfl
  · rw [hrun, Stop.barring_eq_error]
  · rw [data, data]
    cases hlocation : s.location with
    | builtin d => rfl
    | file path => simp only [hsame path hlocation]

def ruleFiles : Workspace := ⟨Path.ofString "/ws", .directory [
  ("bytes.json", .file ⟨#[0xff]⟩),
  ("text.json", .file "\x7b".toUTF8),
  ("list.json", .file "[]".toUTF8),
  ("shape.json", .file "\x7b\"a\":\x7b\"patterns\":1\x7d\x7d".toUTF8),
  ("rules.json", .file ("\x7b\"a\":\x7b\"patterns\":[\x7b\"pattern\":\"(\"\x7d," ++
    "\x7b\"pattern\":\"b\",\"description\":\"d\"\x7d]\x7d\x7d").toUTF8),
  ("repeat.json", .file ("\x7b\"a\":\x7b\"patterns\":[\x7b\"pattern\":\"b\x7b4294967295\x7d\"," ++
    "\"description\":\"d\"\x7d]\x7d\x7d").toUTF8)]⟩

def ofName (name : String) : Source :=
  { name, location := .file (Path.ofString ("/ws/" ++ name)) }

/-- Sources that are missing, malformed or of no use, and one that is of some. -/
def looseSources : List Source :=
  ["none.json", "bytes.json", "text.json", "list.json", "shape.json", "rules.json"].map ofName

/-- A rule that can be used is loaded, whatever is wrong with what stands beside it. -/
theorem loadAll_outcome_looseSources :
    (∀ s ∈ looseSources, (use (s.data ruleFiles)).fault? = none) ∧
      (loadAll ruleFiles looseSources).outcome.1 = .ok (looseSources.map fun s =>
        ⟨s.name, s.kind, (use (s.data ruleFiles)).categories, s.language, s.aboutFrameworks⟩) ∧
      (looseSources.map fun s => Category.ruleCountAll (use (s.data ruleFiles)).categories) =
        [0, 0, 0, 0, 0, 1] := by
  have hall : looseSources.map (fun s => ((use (s.data ruleFiles)).fault?,
      Category.ruleCountAll (use (s.data ruleFiles)).categories)) =
      [(none, 0), (none, 0), (none, 0), (none, 0), (none, 0), (none, 1)] := by
    decide +kernel
  have hfirst : ∀ p ∈ looseSources.map (fun s => ((use (s.data ruleFiles)).fault?,
      Category.ruleCountAll (use (s.data ruleFiles)).categories)), p.1 = none := by
    rw [hall]
    decide
  have hnone : ∀ s ∈ looseSources, (use (s.data ruleFiles)).fault? = none :=
    fun s hs => hfirst _ (List.mem_map_of_mem hs)
  have hcounts := congrArg (List.map Prod.snd) hall
  rw [List.map_map] at hcounts
  exact ⟨hnone, ((loadAll_outcome ruleFiles looseSources).1 _).2 ⟨hnone, rfl⟩, hcounts⟩

/-- A number of repetitions that is too large ends the loading of every source. -/
theorem loadAll_repeatTooLarge :
    (loadAll ruleFiles [ofName "list.json", ofName "repeat.json"]).outcome.1 =
      .error .repeatTooLarge := by
  have hfaults : ([ofName "list.json", ofName "repeat.json"].filterMap fun s =>
      (use (s.data ruleFiles)).fault?) = [.repeatTooLarge] := by
    decide +kernel
  change (loadAll _ _ {}).1 = _
  rw [loadAll_fst, hfaults]
  rfl

end Rule.Source

end RuleReview
