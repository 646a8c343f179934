import Mathlib.Data.List.Induction
import Mathlib.Data.List.Perm.Basic
import Mathlib.Logic.Relation
import RuleReview.Analyzer.Files
import RuleReview.Proofs.Stop
import RuleReview.Proofs.Workspace

/-! Analyses of many files. Whatever the order in which workers begin and finish items, nothing is
lost of what a pool has still to do and has done, so the results of a pool that has nothing left
to do are those of the items, by their places. What is told of files is therefore that of one pass
over them: all of them in their order, with the analyses of those that are readable, unless one of
them has a name that no file can have. -/

namespace RuleReview

namespace Pool

variable {α β : Type} {f : α → β} {workers : Nat} {p q : Pool α β}

/-! ### Places -/

theorem map_placesFrom (f : α → β) (place : Nat) (xs : List α) :
    (placesFrom place xs).map (fun e => (e.1, f e.2)) = placesFrom place (xs.map f) := by
  induction xs generalizing place with
  | nil => rfl
  | cons x xs ih => rw [placesFrom, List.map_cons, ih, List.map_cons, placesFrom]

theorem map_fst_placesFrom (place : Nat) (xs : List α) :
    (placesFrom place xs).map Prod.fst = List.range' place xs.length := by
  induction xs generalizing place with
  | nil => rfl
  | cons x xs ih => rw [placesFrom, List.map_cons, ih, List.length_cons, List.range'_succ]

theorem lookup_placesFrom (place i : Nat) (ys : List β) :
    (placesFrom place ys).lookup (place + i) = ys[i]? := by
  induction ys generalizing place i with
  | nil => rfl
  | cons y ys ih =>
    rw [placesFrom, List.lookup_cons]
    cases i with
    | zero => simp
    | succ i =>
      have hne : (place + (i + 1) == place) = false := beq_eq_false_iff_ne.2 (by omega)
      have hnext := ih (place + 1) i
      rw [Nat.add_assoc, Nat.add_comm 1] at hnext
      rw [hne, List.getElem?_cons_succ, ← hnext]

theorem lookup_eq_of_perm {ps qs : List (Nat × β)} (h : ps.Perm qs) (hps : (ps.map Prod.fst).Nodup)
    (i : Nat) : ps.lookup i = qs.lookup i := by
  induction h with
  | nil => rfl
  | cons r _ ih =>
    rw [List.map_cons, List.nodup_cons] at hps
    rw [List.lookup_cons, List.lookup_cons, ih hps.2]
  | swap r s l =>
    have hne : s.1 ≠ r.1 := fun heq => (List.nodup_cons.1 hps).1 (heq ▸ List.mem_cons_self)
    rw [List.lookup_cons, List.lookup_cons, List.lookup_cons, List.lookup_cons]
    grind
  | trans h _ ih ih' => rw [ih hps, ih' ((h.map Prod.fst).nodup_iff.1 hps)]

theorem filterMap_range_getElem? (ys : List β) :
    (List.range ys.length).filterMap (ys[·]?) = ys := by
  induction ys using List.reverseRecOn with
  | nil => rfl
  | append_singleton ys y ih =>
    have hbefore : (List.range ys.length).filterMap ((ys ++ [y])[·]?) =
        (List.range ys.length).filterMap (ys[·]?) :=
      List.filterMap_congr fun i hi => List.getElem?_append_left (List.mem_range.1 hi)
    rw [List.length_append, List.length_singleton, List.range_succ, List.filterMap_append, hbefore,
      ih]
    simp

/-! ### Schedules -/

/-- What may happen next in a pool: an idle worker begins any item that waits, or any item in work
is finished. -/
inductive Step (workers : Nat) (f : α → β) (p : Pool α β) : Pool α β → Prop
  | begins {before after : List (Nat × α)} {item : Nat × α} :
      p.waiting = before ++ item :: after → p.working.length < workers →
      Step workers f p { p with waiting := before ++ after, working := p.working ++ [item] }
  | finishes (choice : Nat) : p.working ≠ [] → Step workers f p (p.finish f choice)

/-- One thing after the other. -/
abbrev Reaches (workers : Nat) (f : α → β) : Pool α β → Pool α β → Prop :=
  Relation.ReflTransGen (Step workers f)

/-- The results that a pool has and those it is still to have, each with its place. -/
def account (f : α → β) (p : Pool α β) : List (Nat × β) :=
  p.finished ++ (p.working ++ p.waiting).map fun e => (e.1, f e.2)

theorem exists_finish_eq (f : α → β) (choice : Nat) (h : p.working ≠ []) :
    ∃ n, ∃ hn : n < p.working.length, p.finish f choice = { p with
      working := p.working.eraseIdx n
      finished := ((p.working[n]).1, f (p.working[n]).2) :: p.finished } := by
  have hn : choice % p.working.length < p.working.length :=
    Nat.mod_lt _ (List.length_pos_iff.2 h)
  refine ⟨_, hn, ?_⟩
  rw [finish]
  simp only [List.getElem?_eq_getElem hn]

/-- No step loses a result or adds one. -/
theorem Step.account_perm (h : Step workers f p q) : (q.account f).Perm (p.account f) := by
  cases h with
  | begins hwaiting _ =>
    rw [account, account, hwaiting]
    refine (List.Perm.map _ ?_).append_left _
    simp only [List.append_assoc, List.singleton_append]
    exact List.perm_middle.symm.append_left _
  | finishes choice hworking =>
    obtain ⟨n, hn, heq⟩ := exists_finish_eq f choice hworking
    rw [heq, account, account, List.cons_append]
    refine List.perm_middle.symm.trans (List.Perm.append_left _ ?_)
    have hperm := ((List.getElem_cons_eraseIdx_perm hn).append_right p.waiting).map
      fun e => (e.1, f e.2)
    exact hperm

theorem account_perm_of_reaches (h : Reaches workers f p q) :
    (q.account f).Perm (p.account f) := by
  induction h with
  | refl => exact List.Perm.refl _
  | tail _ hstep ih => exact hstep.account_perm.trans ih

/-- A pool in which all items of a list have been worked on, in any order. -/
structure Completes (workers : Nat) (f : α → β) (xs : List α) (p : Pool α β) : Prop where
  reached : Reaches workers f { waiting := placesFrom 0 xs } p
  waiting : p.waiting = []
  working : p.working = []

/-- The results are those of the items in their order. -/
theorem Completes.results_eq {xs : List α} (h : Completes workers f xs p) :
    p.results xs.length = xs.map f := by
  have hperm : p.finished.Perm (placesFrom 0 (xs.map f)) := by
    have haccount := account_perm_of_reaches h.reached
    rw [account, account, h.waiting, h.working, List.nil_append, List.map_nil, List.append_nil,
      List.nil_append, List.nil_append, map_placesFrom] at haccount
    exact haccount
  have hnodup : (p.finished.map Prod.fst).Nodup := by
    rw [(hperm.map Prod.fst).nodup_iff, map_fst_placesFrom]
    exact List.nodup_range'
  have hlookup (i : Nat) : p.finished.lookup i = (xs.map f)[i]? := by
    rw [lookup_eq_of_perm hperm hnodup, ← lookup_placesFrom 0, Nat.zero_add]
  rw [results, List.filterMap_congr fun i _ => hlookup i, ← List.length_map f,
    filterMap_range_getElem?]

/-! ### The pool that runs -/

theorem reaches_begun {begun rest : List (Nat × α)} (hwaiting : p.waiting = begun ++ rest)
    (hidle : p.working.length + begun.length ≤ workers) :
    Reaches workers f p { p with working := p.working ++ begun, waiting := rest } := by
  induction begun generalizing p with
  | nil =>
    obtain ⟨waiting, working, finished⟩ := p
    obtain rfl : waiting = rest := hwaiting
    rw [List.append_nil]
  | cons item begun ih =>
    rw [List.length_cons] at hidle
    have hfirst : p.waiting = [] ++ item :: (begun ++ rest) := hwaiting
    have hstep : Step workers f p
        { p with waiting := [] ++ (begun ++ rest), working := p.working ++ [item] } :=
      .begins hfirst (by omega)
    refine .head hstep ?_
    have hrest := ih (p := { p with waiting := begun ++ rest, working := p.working ++ [item] })
      rfl (by rw [List.length_append, List.length_singleton]; omega)
    rwa [List.append_assoc] at hrest

theorem reaches_occupy : Reaches workers f p (p.occupy workers) := by
  rw [occupy]
  by_cases hfull : workers ≤ p.working.length
  · rw [Nat.sub_eq_zero_of_le hfull]
    simpa using Relation.ReflTransGen.refl
  · refine reaches_begun (List.take_append_drop _ _).symm ?_
    rw [List.length_take]
    omega

/-- The number of items that are not finished. -/
def left (p : Pool α β) : Nat := p.waiting.length + p.working.length

theorem left_occupy : (p.occupy workers).left = p.left := by
  simp only [left, occupy, List.length_append, List.length_take, List.length_drop]
  omega

theorem working_occupy_ne_nil (hworkers : 0 < workers) (hleft : 0 < p.left) :
    (p.occupy workers).working ≠ [] := by
  rw [← List.length_pos_iff, occupy, List.length_append, List.length_take]
  rw [left] at hleft
  omega

theorem left_finish {choice : Nat} (h : p.working ≠ []) :
    (p.finish f choice).left + 1 = p.left := by
  obtain ⟨n, hn, heq⟩ := exists_finish_eq f choice h
  have hlength := List.length_eraseIdx_of_lt hn
  simp only [heq, left]
  omega

theorem reaches_run (hworkers : 0 < workers) {n : Nat} (hn : p.left = n) (choices : List Nat) :
    Reaches workers f p (run workers f n choices p) ∧ (run workers f n choices p).left = 0 := by
  induction n generalizing p choices with
  | zero => exact ⟨.refl, hn⟩
  | succ n ih =>
    have hworking : (p.occupy workers).working ≠ [] := working_occupy_ne_nil hworkers (by omega)
    have hless : ((p.occupy workers).finish f (choices.headD 0)).left + 1 =
        (p.occupy workers).left := left_finish hworking
    rw [left_occupy] at hless
    obtain ⟨hreaches, hleft⟩ := ih (p := (p.occupy workers).finish f (choices.headD 0))
      (by omega) choices.tail
    exact ⟨reaches_occupy.trans (.head (.finishes _ hworking) hreaches), hleft⟩

theorem completes_ofList (hworkers : 0 < workers) (choices : List Nat) (xs : List α) :
    Completes workers f xs (ofList workers f choices xs) := by
  have hlength : (placesFrom 0 xs).length = xs.length := by
    simpa using congrArg List.length (map_fst_placesFrom 0 xs)
  obtain ⟨hreaches, hleft⟩ := reaches_run (f := f) hworkers
    (p := { waiting := placesFrom 0 xs }) (by rw [left, hlength]) choices
  rw [left, Nat.add_eq_zero_iff, List.length_eq_zero_iff, List.length_eq_zero_iff] at hleft
  exact ⟨hreaches, hleft.1, hleft.2⟩

end Pool

namespace Analyzer

variable {w : Workspace} {a : Analyzer} {paths : List Path}

/-! ### Files in turn and together -/

theorem analyzeInTurn_fst (w : Workspace) (a : Analyzer) (paths : List Path) (j : Journal) :
    (a.analyzeInTurn w paths j).1 = paths.mapM (a.fileOutcome w) := by
  induction paths generalizing j with
  | nil => rfl
  | cons p ps ih =>
    rw [analyzeInTurn, List.mapM_cons]
    cases a.fileOutcome w p with
    | error f => rfl
    | ok o =>
      dsimp only
      rw [Stop.fst_bind, Stop.ok_bind]
      simp only [Stop.fst_bind, ih]
      rfl

theorem analyzeTogether_fst {workers : Nat} (hworkers : 0 < workers) (choices : List Nat)
    (j : Journal) :
    (a.analyzeTogether w workers choices paths j).1 = paths.mapM (a.fileOutcome w) := by
  have hresults := (Pool.completes_ofList (f := a.fileOutcome w) hworkers choices paths).results_eq
  rw [analyzeTogether]
  simp only [Stop.fst_bind]
  rw [Stop.forIn_fst, Stop.ok_bind, hresults, List.mapM_map, Function.id_comp]
  · cases paths.mapM (a.fileOutcome w) <;> rfl
  · intro r j
    cases r <;> rfl

/-- What is told of files does not depend on how many workers there are, nor on which of them is
done first. -/
theorem analyzeFiles_fst (w : Workspace) (a : Analyzer) (workers : Nat) (choices : List Nat)
    (paths : List Path) (j : Journal) :
    (a.analyzeFiles w workers choices paths j).1 = paths.mapM (a.fileOutcome w) := by
  rw [analyzeFiles]
  split
  next => exact analyzeInTurn_fst w a paths j
  next hmost => exact analyzeTogether_fst (Nat.lt_trans Nat.zero_lt_one (Nat.not_le.1 hmost)) _ _

/-! ### What is told of files -/

def readable? (w : Workspace) (a : Analyzer) (p : Path) : Option (Path × Analysis) :=
  (w.readLossy p).toOption.map fun text => (p, a.analyze text.toList none (some p.toString))

theorem fileOutcome_of_hasNul {p : Path} (h : p.HasNul) :
    a.fileOutcome w p = .error .nulInPath := by
  rw [fileOutcome, analyzeFile, Workspace.readLossy_eq_nul.2 h]
  rfl

theorem exists_fileOutcome {p : Path} (h : ¬ p.HasNul) :
    ∃ o, a.fileOutcome w p = .ok o ∧ o.path = p ∧ o.pair? = readable? w a p := by
  rw [fileOutcome, analyzeFile, readable?]
  cases hread : w.readLossy p with
  | ok text => exact ⟨_, rfl, rfl, rfl⟩
  | error f =>
    have hpassed : isPassedOver f = true := by
      rcases Workspace.readLossy_eq_error hread with rfl | rfl | rfl | rfl | rfl
      · rfl
      · rfl
      · rfl
      · rfl
      · exact absurd (Workspace.readLossy_eq_nul.1 hread) h
    exact ⟨_, if_pos hpassed, rfl, rfl⟩

theorem mapM_fileOutcome_of_hasNul (h : ∃ p ∈ paths, p.HasNul) :
    paths.mapM (a.fileOutcome w) = .error .nulInPath := by
  induction paths with
  | nil => simp at h
  | cons p ps ih =>
    rw [List.mapM_cons]
    by_cases hp : p.HasNul
    · rw [fileOutcome_of_hasNul hp]
      rfl
    · obtain ⟨o, ho, -⟩ := exists_fileOutcome (w := w) (a := a) hp
      rw [ho, Stop.ok_bind, ih (by simpa [hp] using h)]
      rfl

theorem exists_mapM_fileOutcome (h : ∀ p ∈ paths, ¬ p.HasNul) :
    ∃ os, paths.mapM (a.fileOutcome w) = .ok os ∧ os.map (·.path) = paths ∧
      analyzed os = paths.filterMap (readable? w a) := by
  induction paths with
  | nil => exact ⟨[], rfl, rfl, rfl⟩
  | cons p ps ih =>
    obtain ⟨hp, hps⟩ := List.forall_mem_cons.1 h
    obtain ⟨o, ho, hpath, hpair⟩ := exists_fileOutcome (w := w) (a := a) hp
    obtain ⟨os, hos, hpaths, hanalyzed⟩ := ih hps
    refine ⟨o :: os, ?_, ?_, ?_⟩
    · rw [List.mapM_cons, ho, Stop.ok_bind, hos]
      rfl
    · rw [List.map_cons, hpath, hpaths]
    · rw [analyzed, List.filterMap_cons, List.filterMap_cons, hpair, ← analyzed, hanalyzed]

/-- The analysis of a file is that of its text. -/
theorem exists_of_mem_analyzed {workers : Nat} {choices : List Nat} {j : Journal}
    {os : List FileOutcome} (h : (a.analyzeFiles w workers choices paths j).1 = .ok os) {p : Path}
    {r : Analysis} (hr : (p, r) ∈ analyzed os) :
    ∃ text path, r = a.analyze text none (some path) := by
  rw [analyzeFiles_fst] at h
  have hnul : ∀ p ∈ paths, ¬ p.HasNul := fun p hp hnul => by
    rw [mapM_fileOutcome_of_hasNul ⟨p, hp, hnul⟩] at h
    cases h
  obtain ⟨os', hos', -, hanalyzed⟩ := exists_mapM_fileOutcome (w := w) (a := a) hnul
  obtain rfl := Except.ok.inj (h.symm.trans hos')
  rw [hanalyzed] at hr
  obtain ⟨path, -, hpath⟩ := List.mem_filterMap.1 hr
  obtain ⟨text, -, heq⟩ := Option.map_eq_some_iff.1 hpath
  cases heq
  exact ⟨text.toList, p.toString, rfl⟩

/-- Files that are analyzed together are told of as in one pass over them, however many workers
are asked for and in whatever order they begin and finish files: of all files in their order, with
the analyses of those that can be read, unless a file has a name with a character that no name
has, which ends the pass and whatever is done together. -/
theorem analyzeFiles_outcome (w : Workspace) (a : Analyzer) (paths : List Path) :
    (∀ (workers : Option Int) (choices : List Nat) (j : Journal),
      (a.analyzeFiles w (workers.getD 1).toNat choices paths j).1 =
        (a.analyzeInTurn w paths {}).1) ∧
    (∀ (workers : Nat) (pool : Pool Path (Except Fault FileOutcome)),
      pool.Completes workers (a.fileOutcome w) paths →
        (pool.results paths.length).mapM id = (a.analyzeInTurn w paths {}).1) ∧
    if ∃ p ∈ paths, p.HasNul then (a.analyzeInTurn w paths {}).1 = .error .nulInPath
    else ∃ os, (a.analyzeInTurn w paths {}).1 = .ok os ∧ os.map (·.path) = paths ∧
      analyzed os = paths.filterMap (readable? w a) := by
  simp only [analyzeInTurn_fst]
  refine ⟨fun workers choices j => analyzeFiles_fst .., fun workers pool h => ?_, ?_⟩
  · rw [h.results_eq, List.mapM_map, Function.id_comp]
  · split
    next hnul => exact mapM_fileOutcome_of_hasNul hnul
    next hnul => exact exists_mapM_fileOutcome (by simpa using hnul)

def readableFile : Workspace :=
  ⟨Path.ofString "/w", .directory [("a.py", .file "x = 1\n".toUTF8)]⟩

/-- A path without a file, and the file. -/
def missingFirst : List Path := [Path.ofString "/w/b.py", Path.ofString "/w/a.py"]

/-- The file is done before it is found that there is none at the path in front of it. -/
theorem analyzeFiles_outcome_missingFirst :
    ∃ pool : Pool Path (Except Fault FileOutcome),
      pool.Completes 2 ((⟨{}, []⟩ : Analyzer).fileOutcome readableFile) missingFirst ∧
      pool.finished.map Prod.fst = [0, 1] ∧
      ∃ os, (pool.results 2).mapM id = .ok os ∧ os.map (·.path) = missingFirst ∧
        (analyzed os).map Prod.fst = [Path.ofString "/w/a.py"] := by
  obtain ⟨-, hpool, hpass⟩ := analyzeFiles_outcome readableFile ⟨{}, []⟩ missingFirst
  have hcompletes : Pool.Completes 2 ((⟨{}, []⟩ : Analyzer).fileOutcome readableFile) missingFirst
      (.ofList 2 _ [1] missingFirst) := Pool.completes_ofList (by decide) [1] missingFirst
  rw [if_neg (by decide +kernel)] at hpass
  obtain ⟨os, hos, hpaths, hanalyzed⟩ := hpass
  refine ⟨_, hcompletes, by decide +kernel, os, (hpool 2 _ hcompletes).trans hos, hpaths, ?_⟩
  rw [hanalyzed]
  decide +kernel

def unnamedFile : List Path := [Path.ofString "/w/a.py", Path.ofString "/w/b\x00.py"]

/-- Nothing is told of a file that can be read together with one that cannot have its name. -/
theorem analyzeFiles_unnamedFile :
    unnamedFile.map (fun p => (readableFile.readLossy p).toOption) = [some "x = 1\n", none] ∧
    ((⟨{}, []⟩ : Analyzer).analyzeFiles readableFile 2 [] unnamedFile {}).1 =
      .error .nulInPath := by
  have hnul : ∃ p ∈ unnamedFile, p.HasNul := by decide +kernel
  exact ⟨by decide +kernel, (analyzeFiles_fst ..).trans (mapM_fileOutcome_of_hasNul hnul)⟩

end Analyzer

end RuleReview
