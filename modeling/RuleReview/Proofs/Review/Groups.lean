import Mathlib.Data.List.Induction
import RuleReview.Proofs.Diff.Numbering
import RuleReview.Proofs.Stop
import RuleReview.Review.Run

/-! Findings and their places. The line of a finding and its position in the diff of its file
determine each other. The places are those of the findings, each once and in ascending order, and
each holds its issues in the order in which they were found. Issues are not compared when the
groups are brought into their order. -/

namespace RuleReview.Review

/-- The position of a line in the diff of a file, if there are a diff and a position in it. -/
def positionIn (a : Analyzer) (r : Request) (runner : Command.Runner) (path : String)
    (line : Nat) : Option Nat :=
  match (Git.fileDiff runner r.base r.head path).outcome.1 with
  | .error _ => none
  | .ok text =>
    match Diff.read a.config.comments.countHunkHeaders text with
    | .error _ => none
    | .ok d => d.positionOf? line

variable {a : Analyzer} {r : Request} {runner : Command.Runner}

/-- Lines of a file with one position are one line. -/
theorem positionIn_inj {path : String} {m n p : Nat}
    (hm : positionIn a r runner path m = some p) (hn : positionIn a r runner path n = some p) :
    m = n := by
  rw [positionIn] at hm hn
  cases hdiff : (Git.fileDiff runner r.base r.head path).outcome.1 with
  | error e => rw [hdiff] at hm; cases hm
  | ok text =>
    simp only [hdiff] at hm hn
    cases hread : Diff.read a.config.comments.countHunkHeaders text with
    | error f => rw [hread] at hm; cases hm
    | ok d =>
      simp only [hread] at hm hn
      exact Diff.positionOf?_inj hread hm hn

/-- The output of a command does not depend on what was done before. -/
theorem output_fst (args : List String) (j : Journal) : (Git.output runner args j).1 =
    ((runner ("git" :: args) true).mapError (Git.errorOf args)).map (·.output) := by
  simp only [Git.output, Stop.map_apply, LogM.mapError_apply, Command.run_apply]

theorem fileDiff_fst (base head path : String) (j : Journal) :
    (Git.fileDiff runner base head path j).1 =
      (Git.fileDiff runner base head path).outcome.1 :=
  (output_fst _ j).trans (output_fst _ {}).symm

theorem readFile_eq_ok {path text diff : String} {j : Journal}
    (h : (readFile r runner path j).1 = .ok (text, diff)) :
    (Git.fileDiff runner r.base r.head path).outcome.1 = .ok diff := by
  rw [readFile] at h
  cases hfile : r.workspace.readLossy (r.directory.join (Path.ofString path)) with
  | error f => rw [hfile] at h; cases h
  | ok content =>
    rw [hfile, Stop.fst_bind, Stop.bind_eq_ok] at h
    obtain ⟨diff', hdiff, hpure⟩ := h
    cases hpure
    rwa [fileDiff_fst] at hdiff

theorem position_of_mem_fileFindings {path text diff : String} {extra : List Issue} {j : Journal}
    {fs : List Finding} (hdiff : (Git.fileDiff runner r.base r.head path).outcome.1 = .ok diff)
    (h : (fileFindings a path text diff extra j).1 = .ok fs) {f : Finding} (hf : f ∈ fs) :
    f.position = positionIn a r runner f.path f.issue.line := by
  rw [fileFindings] at h
  cases hread : Diff.read a.config.comments.countHunkHeaders diff with
  | error e => rw [hread] at h; cases h
  | ok d =>
    rw [hread] at h
    cases h
    obtain ⟨i, -, rfl⟩ := List.mem_map.1 hf
    simp only [positionIn, hdiff, hread]

theorem position_of_mem_collect {lint : List (String × List Issue)} {paths : List String}
    {j : Journal} {files : List (String × List Finding)} {skipped : List String}
    (h : (collect a r runner lint paths j).1 = .ok (files, skipped)) :
    ∀ e ∈ files, ∀ f ∈ e.2, f.position = positionIn a r runner f.path f.issue.line := by
  induction paths generalizing j files skipped with
  | nil => cases h; simp
  | cons path paths ih =>
    rw [collect, Stop.fst_bind, Stop.bind_eq_ok] at h
    obtain ⟨read, hread, h⟩ := h
    cases read with
    | ok texts =>
      obtain ⟨text, diff⟩ := texts
      simp only [Stop.fst_bind, Stop.bind_eq_ok] at h
      obtain ⟨found, hfound, ⟨files', skipped'⟩, hrest, hpure⟩ := h
      cases hpure
      intro e he f hf
      rcases List.mem_cons.1 he with rfl | he
      · exact position_of_mem_fileFindings (readFile_eq_ok (Except.ok.inj hread)) hfound hf
      · exact ih hrest e he f hf
    | error e =>
      cases hskips : skips e with
      | false => simp [hskips] at h; cases h
      | true =>
        simp only [hskips, if_true, Stop.fst_bind, Stop.bind_eq_ok] at h
        obtain ⟨-, -, ⟨files', skipped'⟩, hrest, hpure⟩ := h
        cases hpure
        exact ih hrest

/-- What a review finds has the position of its line in the diff of its file. -/
theorem position_of_mem_findAll {o : Outcome} (h : (findAll a r runner).outcome.1 = .ok o)
    {f : Finding} (hf : f ∈ o.findings) :
    f.position = positionIn a r runner f.path f.issue.line := by
  change (findAll a r runner {}).1 = _ at h
  rw [findAll] at h
  simp only [Stop.fst_bind, Stop.bind_eq_ok] at h
  obtain ⟨paths, -, lint, -, ⟨files, skipped⟩, hfiles, -, -, hpure⟩ := h
  cases hpure
  obtain ⟨e, he, hf⟩ := List.mem_flatMap.1 hf
  exact position_of_mem_collect hfiles e he f hf

end RuleReview.Review

/-! ### Places -/

namespace RuleReview.Review

def Finding.place? (f : Finding) : Option (String × Nat) := f.position.map (f.path, ·)

def Group.place (g : Group) : String × Nat := (g.path, g.position)

def issuesAt (fs : List Finding) (p : String × Nat) : List Issue :=
  (fs.filter (·.place? = some p)).map (·.issue)

def groupAt (fs : List Finding) (p : String × Nat) : Group := ⟨p.1, p.2, issuesAt fs p⟩

/-- Whether a place comes before another: by path, then by position. -/
def Precedes (p q : String × Nat) : Prop := p.1 < q.1 ∨ p.1 = q.1 ∧ p.2 < q.2

theorem not_precedes_self (p : String × Nat) : ¬ Precedes p p := by
  rintro (hpath | ⟨-, hposition⟩)
  · exact String.lt_irrefl p.1 hpath
  · exact Nat.lt_irrefl p.2 hposition

/-- The places of findings, each once and in ascending order. -/
structure IsListing (fs : List Finding) (ps : List (String × Nat)) : Prop where
  ascending : ps.Pairwise Precedes
  mem : ∀ p, p ∈ ps ↔ ∃ f ∈ fs, f.place? = some p

theorem issuesAt_concat (fs : List Finding) (f : Finding) (p : String × Nat) :
    issuesAt (fs ++ [f]) p = issuesAt fs p ++ if f.place? = some p then [f.issue] else [] := by
  by_cases h : f.place? = some p <;> simp [issuesAt, h]

theorem issuesAt_eq_nil {fs : List Finding} {p : String × Nat}
    (h : ¬ ∃ f ∈ fs, f.place? = some p) : issuesAt fs p = [] := by
  simp_all [issuesAt]

theorem groupAt_concat_of_ne {f : Finding} {p : String × Nat} (h : f.place? ≠ some p)
    (fs : List Finding) : groupAt (fs ++ [f]) p = groupAt fs p := by
  simp [groupAt, issuesAt_concat, h]

theorem addToGroup_map_groupAt {fs : List Finding} {f : Finding} {p : String × Nat}
    (hf : f.place? = some p) {ps : List (String × Nat)} (hps : ps.Nodup)
    (hnone : p ∉ ps → issuesAt fs p = []) :
    addToGroup p.1 p.2 f.issue (ps.map (groupAt fs)) =
      (if p ∈ ps then ps else ps ++ [p]).map (groupAt (fs ++ [f])) := by
  induction ps with
  | nil => simp [addToGroup, groupAt, issuesAt_concat, hf, hnone]
  | cons q ps ih =>
    obtain ⟨hq, hps⟩ := List.nodup_cons.1 hps
    rw [List.map_cons, addToGroup]
    by_cases hpq : p = q
    · subst hpq
      have hrest : ps.map (groupAt (fs ++ [f])) = ps.map (groupAt fs) := by
        refine List.map_congr_left fun p' hp' => groupAt_concat_of_ne ?_ fs
        rintro heq
        exact hq (Option.some.inj (hf.symm.trans heq) ▸ hp')
      simp [groupAt, issuesAt_concat, hf, hrest]
    · have hsame : groupAt (fs ++ [f]) q = groupAt fs q :=
        groupAt_concat_of_ne (fun heq => hpq (Option.some.inj (hf.symm.trans heq))) fs
      have hother : ¬ ((groupAt fs q).path = p.1 ∧ (groupAt fs q).position = p.2) :=
        fun h => hpq (Prod.ext h.1.symm h.2.symm)
      rw [if_neg hother, ih hps fun hp => hnone (by simp [hpq, hp])]
      by_cases hp : p ∈ ps <;> simp [hpq, hp, hsame]

def addFinding (gs : List Group) (f : Finding) : List Group :=
  match f.position with
  | some n => addToGroup f.path n f.issue gs
  | none => gs

theorem groups_eq (fs : List Finding) :
    groups fs = (fs.foldl addFinding []).mergeSort Group.mayPrecede := rfl

/-- Groups are made in the order in which their places first come up. -/
theorem exists_places (fs : List Finding) : ∃ ps : List (String × Nat), ps.Nodup ∧
    (∀ p, p ∈ ps ↔ ∃ f ∈ fs, f.place? = some p) ∧
    fs.foldl addFinding [] = ps.map (groupAt fs) := by
  induction fs using List.reverseRecOn with
  | nil => exact ⟨[], .nil, by simp, rfl⟩
  | append_singleton fs f ih =>
    obtain ⟨ps, hps, hmem, hfold⟩ := ih
    rw [List.foldl_append, hfold, List.foldl_cons, List.foldl_nil, addFinding]
    cases hf : f.position with
    | none =>
      have hplace : f.place? = none := by simp [Finding.place?, hf]
      refine ⟨ps, hps, by simp [hmem, hplace], ?_⟩
      exact List.map_congr_left fun p _ => (groupAt_concat_of_ne (by simp [hplace]) fs).symm
    | some n =>
      have hplace : f.place? = some (f.path, n) := by simp [Finding.place?, hf]
      refine ⟨_, ?_, ?_, addToGroup_map_groupAt hplace hps
        fun hp => issuesAt_eq_nil ((hmem _).not.1 hp)⟩
      · split
        next => exact hps
        next hp => exact List.nodup_append.2 ⟨hps, by simp, by grind⟩
      · intro p
        split
        next hp =>
          have hold := (hmem _).1 hp
          simp only [hmem, List.mem_append, List.mem_singleton]
          grind
        next hp => simp [hmem, hplace, eq_comm]

/-! ### In order -/

theorem mayPrecede_trans (a b c : Group) (hab : a.mayPrecede b) (hbc : b.mayPrecede c) :
    a.mayPrecede c := by
  simp only [Group.mayPrecede, Bool.or_eq_true, decide_eq_true_eq, Bool.and_eq_true, beq_iff_eq]
    at *
  grind

theorem mayPrecede_total (a b : Group) : (a.mayPrecede b || b.mayPrecede a) := by
  simp only [Group.mayPrecede, Bool.or_eq_true, decide_eq_true_eq, Bool.and_eq_true, beq_iff_eq]
  grind

/-- The groups of findings are those of their places, in the order of the places. -/
theorem exists_isListing (fs : List Finding) :
    ∃ ps, IsListing fs ps ∧ groups fs = ps.map (groupAt fs) := by
  obtain ⟨ps, hps, hmem, hfold⟩ := exists_places fs
  have hperm : (groups fs).Perm (ps.map (groupAt fs)) := by
    rw [groups_eq, hfold]
    exact List.mergeSort_perm _ _
  have hplaces : ((groups fs).map Group.place).Perm ps := by
    simpa [Function.comp_def, groupAt, Group.place] using hperm.map Group.place
  have hsorted : (groups fs).Pairwise fun a b => a.mayPrecede b :=
    List.pairwise_mergeSort mayPrecede_trans mayPrecede_total _
  refine ⟨(groups fs).map Group.place, ⟨?_, fun p => hplaces.mem_iff.trans (hmem p)⟩, ?_⟩
  · have hnodup : (groups fs).Pairwise fun a b => a.place ≠ b.place :=
      List.pairwise_map.1 (hplaces.nodup_iff.2 hps)
    refine List.pairwise_map.2 ((hsorted.and hnodup).imp fun h => ?_)
    simp only [Group.mayPrecede, Bool.or_eq_true, decide_eq_true_eq, Bool.and_eq_true,
      beq_iff_eq, Group.place, ne_eq, Prod.mk.injEq] at h
    simp only [Precedes, Group.place]
    grind
  · rw [List.map_map]
    refine (List.map_congr_left fun g hg => ?_).trans (List.map_id _) |>.symm
    obtain ⟨p, -, rfl⟩ := List.mem_map.1 (hperm.mem_iff.1 hg)
    rfl

theorem Precedes.asymm {p q : String × Nat} (hpq : Precedes p q) : ¬ Precedes q p := by
  rintro (hpath | ⟨hpath, hposition⟩) <;> rcases hpq with hpath' | ⟨hpath', hposition'⟩
  · exact String.lt_irrefl _ (String.lt_trans hpath hpath')
  · exact String.lt_irrefl _ (hpath' ▸ hpath)
  · exact String.lt_irrefl _ (hpath ▸ hpath')
  · omega

/-- There is one listing of the places. -/
theorem IsListing.eq {fs : List Finding} {ps qs : List (String × Nat)} (hps : IsListing fs ps)
    (hqs : IsListing fs qs) : ps = qs := by
  have hnodup {rs : List (String × Nat)} (hrs : IsListing fs rs) : rs.Nodup := by
    refine hrs.ascending.imp ?_
    rintro p _ hpq rfl
    exact not_precedes_self p hpq
  have hperm : ps.Perm qs := (List.perm_ext_iff_of_nodup (hnodup hps) (hnodup hqs)).2
    fun p => (hps.mem p).trans (hqs.mem p).symm
  exact hperm.eq_of_pairwise (fun p q _ _ hpq hqp => absurd hqp hpq.asymm) hps.ascending
    hqs.ascending

/-! ### Only places are compared -/

theorem merge_congr {α : Type} {le le' : α → α → Bool} {xs ys : List α}
    (h : ∀ x ∈ xs, ∀ y ∈ ys, le x y = le' x y) : xs.merge ys le = xs.merge ys le' := by
  have hmap : (xs.merge ys le).map id = (xs.map id).merge (ys.map id) le' := List.map_merge h
  simpa using hmap

/-- Sorting compares elements with later ones only. -/
theorem mergeSort_congr {α : Type} {le le' : α → α → Bool} :
    ∀ {xs : List α}, xs.Pairwise (fun a b => le a b = le' a b) → xs.mergeSort le = xs.mergeSort le'
  | [], _ => by rw [List.mergeSort_nil, List.mergeSort_nil]
  | [a], _ => by rw [List.mergeSort_singleton, List.mergeSort_singleton]
  | a :: b :: xs, h => by
    rw [List.mergeSort, List.mergeSort]
    simp only [List.MergeSort.Internal.splitInTwo_fst, List.MergeSort.Internal.splitInTwo_snd]
    generalize hm : ((a :: b :: xs).length + 1) / 2 = m
    have hm : 0 < m ∧ m < (a :: b :: xs).length := by
      rw [← hm, List.length_cons, List.length_cons]
      omega
    rw [← List.take_append_drop m (a :: b :: xs), List.pairwise_append] at h
    obtain ⟨hfront, hback, hacross⟩ := h
    rw [mergeSort_congr hfront, mergeSort_congr hback]
    exact merge_congr fun x hx y hy =>
      hacross x (List.mem_mergeSort.1 hx) y (List.mem_mergeSort.1 hy)
termination_by xs => xs.length
decreasing_by
  · rw [List.length_take]
    omega
  · rw [List.length_drop]
    omega

/-- However the issues of one place were compared, the order of the groups is the same, as no two
groups have the same place. -/
theorem mergeSort_foldl_addFinding (fs : List Finding)
    (compare : List Issue → List Issue → Bool) :
    (fs.foldl addFinding []).mergeSort (fun g h =>
      if g.place = h.place then compare g.issues h.issues else g.mayPrecede h) = groups fs := by
  obtain ⟨ps, hps, -, hfold⟩ := exists_places fs
  rw [groups_eq]
  refine mergeSort_congr ?_
  rw [hfold, List.pairwise_map]
  refine hps.imp fun {p q} hne => if_neg fun heq => hne ?_
  exact Prod.ext (congrArg Prod.fst heq) (congrArg Prod.snd heq)

end RuleReview.Review
