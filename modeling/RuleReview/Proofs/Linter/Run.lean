import RuleReview.Proofs.Data
import RuleReview.Proofs.Linter.Reading
import RuleReview.Proofs.Stop

/-! Running linters. What one of them contributes depends on what it printed alone, and is
nothing where it was not run or its output is not read. A run breaks off for output of ESLint
only, for an infinite column and for JSON that is nested too deep. -/

namespace RuleReview.Linter

open Stop (barring)

variable {runner : Command.Runner} {c : Config.Linters} {root : Path} {files : List String}
  {l : Linter}

/-! ### One linter -/

/-- What is found in an output. One that is blank, or not read, holds nothing. -/
def foundIn (l : Linter) (root : Path) (output : String) : Findings :=
  if Text.isBlankText output then [] else (l.read root output).toOption.getD []

/-- The cause in an output that is not handled. -/
def breakIn? (l : Linter) (root : Path) (output : String) : Option Fault :=
  if Text.isBlankText output then none
  else match l.read root output with
    | .error (.fault f) => if isHandled f then none else some f
    | _ => none

theorem breakIn?_eq_some {output : String} {f : Fault} :
    breakIn? l root output = some f ↔ Text.isBlankText output = false ∧
      l.read root output = .error (.fault f) ∧ isHandled f = false := by
  rw [breakIn?]
  cases Text.isBlankText output with
  | true => simp
  | false =>
    rcases l.read root output with (_ | f') | fs
    · simp
    · have hsame : isHandled f' = false ∧ f' = f ↔ f' = f ∧ isHandled f = false := by
        rw [and_comm]
        exact and_congr_right fun h => h ▸ Iff.rfl
      simpa using hsame
    · simp

theorem absorb_fst (l : Linter) (root : Path) (r : Command.Result) (j : Journal) :
    (l.absorb root r j).1 =
      barring (breakIn? l root r.output).toList (foundIn l root r.output) := by
  rw [absorb, breakIn?, foundIn]
  by_cases hblank : Text.isBlankText r.output = true
  · rw [if_pos hblank, if_pos hblank, if_pos hblank]
    by_cases hok : r.isOk = true
    · rw [if_pos hok]
      rfl
    · rw [if_neg hok]
      rfl
  · rw [if_neg hblank, if_neg hblank, if_neg hblank]
    cases hread : l.read root r.output with
    | ok found => rfl
    | error e =>
      cases e with
      | notList => rfl
      | fault f =>
        dsimp only
        cases hhandled : isHandled f with
        | true =>
          rw [if_pos rfl, if_pos rfl, Stop.fst_bind, LogM.warnOf]
          split <;> rfl
        | false =>
          rw [if_neg nofun, if_neg nofun]
          rfl

def output? (runner : Command.Runner) (files : List String) (l : Linter) : Option String :=
  if l.targets files = [] then none
  else (runner (l.command (l.targets files)) false).toOption.map (·.output)

def found (runner : Command.Runner) (root : Path) (files : List String) (l : Linter) : Findings :=
  ((output? runner files l).map (foundIn l root)).getD []

/-- The cause for which the run of a linter breaks off. -/
def break? (runner : Command.Runner) (root : Path) (files : List String) (l : Linter) :
    Option Fault :=
  (output? runner files l).bind (breakIn? l root)

/-- A runner that runs commands, or tells that it cannot. -/
def Answers (runner : Command.Runner) : Prop :=
  ∀ args check f, runner args check ≠ .error (.fault f)

theorem runOne_fst (hrunner : Answers runner) (root : Path) (files : List String) (l : Linter)
    (j : Journal) :
    (runOne runner root files l j).1 =
      barring (break? runner root files l).toList (found runner root files l) := by
  rw [runOne, break?, found, output?]
  by_cases htargets : l.targets files = []
  · simp only [htargets, List.isEmpty_nil, if_true]
    rfl
  · simp only [htargets, List.isEmpty_iff, if_false]
    rw [Stop.fst_bind, LogM.attempt_apply, Command.run_apply]
    cases hanswer : runner (l.command (l.targets files)) false with
    | ok r => exact absorb_fst l root r _
    | error e =>
      cases e with
      | fault f => exact absurd hanswer (hrunner _ _ f)
      | _ => rfl

theorem runEach_fst (hrunner : Answers runner) (root : Path) (files : List String)
    (ls : List Linter) (j : Journal) :
    (runEach runner root files ls j).1 =
      barring (ls.flatMap fun l => (break? runner root files l).toList)
        (ls.flatMap (found runner root files)) := by
  induction ls generalizing j with
  | nil => rfl
  | cons l ls ih =>
    rw [runEach, Stop.fst_bind, runOne_fst hrunner, List.flatMap_cons, List.flatMap_cons]
    refine Stop.barring_bind ?_
    rw [Stop.fst_bind, ih]
    exact Stop.map_barring _ _ _

/-! ### Findings by file -/

def issuesOf (groups : List (String × List Issue)) (file : String) : List Issue :=
  (Data.lookup file groups).getD []

def Findings.about (fs : Findings) (file : String) : List Issue :=
  (fs.filter (·.1 = file)).map (·.2)

theorem issuesOf_insert (file : String) (f : String × Issue) (groups : List (String × List Issue)) :
    issuesOf (insert f.1 f.2 groups) file =
      issuesOf groups file ++ Findings.about [f] file := by
  rw [issuesOf, insert, Data.lookup_assign]
  by_cases hfile : f.1 = file
  · simp [issuesOf, Findings.about, hfile]
  · simp [issuesOf, Findings.about, hfile]

theorem about_append (fs fs' : Findings) (file : String) :
    (fs ++ fs').about file = fs.about file ++ fs'.about file := by
  simp [Findings.about]

theorem issuesOf_byFile (fs : Findings) (file : String) :
    issuesOf (byFile fs) file = fs.about file := by
  suffices h : ∀ groups, issuesOf (fs.foldl (fun groups f => insert f.1 f.2 groups) groups) file =
      issuesOf groups file ++ fs.about file from h []
  intro groups
  induction fs generalizing groups with
  | nil => simp [Findings.about]
  | cons f fs ih =>
    rw [List.foldl_cons, ih, issuesOf_insert, List.append_assoc, ← about_append]
    rfl

/-- Each file stands once. -/
theorem nodup_byFile (fs : Findings) : ((byFile fs).map Prod.fst).Nodup := by
  suffices h : ∀ groups : List (String × List Issue), (groups.map Prod.fst).Nodup →
      ((fs.foldl (fun groups f => insert f.1 f.2 groups) groups).map Prod.fst).Nodup from
    h [] List.nodup_nil
  induction fs with
  | nil => exact fun _ h => h
  | cons f fs ih => exact fun groups h => ih _ (Data.nodup_keys_assign h f.1 _)

theorem mem_keys_byFile {fs : Findings} {file : String} :
    file ∈ (byFile fs).map Prod.fst ↔ ∃ f ∈ fs, f.1 = file := by
  suffices h : ∀ groups : List (String × List Issue),
      file ∈ (fs.foldl (fun groups f => insert f.1 f.2 groups) groups).map Prod.fst ↔
        file ∈ groups.map Prod.fst ∨ ∃ f ∈ fs, f.1 = file by
    exact (h []).trans (by simp)
  induction fs with
  | nil => simp
  | cons f fs ih =>
    intro groups
    have hkeys : file ∈ (insert f.1 f.2 groups).map Prod.fst ↔
        file ∈ groups.map Prod.fst ∨ f.1 = file := by
      rw [insert, Data.keys_assign]
      split
      next hmem => exact ⟨.inl, fun h => h.elim id fun hf => hf ▸ hmem⟩
      next => rw [List.mem_append, List.mem_singleton, eq_comm]
    rw [List.foldl_cons, ih, hkeys, or_assoc]
    simp only [List.mem_cons, exists_eq_or_imp]

/-! ### Runs -/

/-- What a linter contributes to a file, if it is enabled. -/
def contribution (runner : Command.Runner) (c : Config.Linters) (root : Path) (files : List String)
    (l : Linter) (file : String) : List Issue :=
  if l.isEnabled c then (found runner root files l).about file else []

theorem flatMap_enabled {α : Type} (c : Config.Linters) (g : Linter → List α) :
    (all.filter (·.isEnabled c)).flatMap g =
      (if c.eslint then g eslint else []) ++ if c.flake8 then g flake8 else [] := by
  obtain ⟨e, f⟩ := c
  cases e <;> cases f <;> simp [all, isEnabled]

theorem break?_flake8 (runner : Command.Runner) (root : Path) (files : List String) :
    break? runner root files flake8 = none := by
  refine Option.eq_none_iff_forall_ne_some.2 fun f h => ?_
  obtain ⟨output, -, hbreak⟩ := Option.bind_eq_some_iff.1 h
  obtain ⟨-, hread, hnot⟩ := breakIn?_eq_some.1 hbreak
  obtain ⟨f', heq, hhandled⟩ := Flake8.readLines_eq_error hread
  obtain rfl := Error.fault.inj heq
  exact nomatch hnot.symm.trans hhandled

theorem break?_eslint_eq_some {f : Fault} :
    break? runner root files eslint = some f ↔
      ∃ output, output? runner files eslint = some output ∧ Text.isBlankText output = false ∧
        (Eslint.outputStops root output).head? = some (.fault f) ∧ isHandled f = false := by
  simp only [← Eslint.read_stopsFor root _ _]
  exact Option.bind_eq_some_iff.trans
    (exists_congr fun output => and_congr_right fun _ => breakIn?_eq_some)

/-- A run gives findings, unless the output of ESLint breaks it off. -/
theorem run_fst (hrunner : Answers runner) (c : Config.Linters) (root : Path)
    (files : List String) :
    (run runner c root files).outcome.1 =
      barring (if c.eslint then (break? runner root files eslint).toList else [])
        (byFile ((if c.eslint then found runner root files eslint else []) ++
          if c.flake8 then found runner root files flake8 else [])) := by
  change (run runner c root files {}).1 = _
  rw [run, Stop.fst_bind, runEach_fst hrunner, flatMap_enabled, flatMap_enabled, break?_flake8,
    Option.toList_none, ite_self, List.append_nil]
  exact Stop.map_barring _ _ _

theorem issuesOf_of_run (hrunner : Answers runner) {groups : List (String × List Issue)}
    (h : (run runner c root files).outcome.1 = .ok groups) (file : String) :
    issuesOf groups file = contribution runner c root files eslint file ++
      contribution runner c root files flake8 file := by
  rw [run_fst hrunner, Stop.barring_eq_ok] at h
  obtain ⟨-, rfl⟩ := h
  rw [issuesOf_byFile, about_append, contribution, contribution]
  congr 1
  · change Findings.about (if c.eslint then _ else _) file = if c.eslint then _ else _
    split <;> rfl
  · change Findings.about (if c.flake8 then _ else _) file = if c.flake8 then _ else _
    split <;> rfl

theorem source_of_mem_found {p : String × Issue} (h : p ∈ found runner root files l) :
    p.2.source = l.name := by
  rw [found] at h
  cases hout : output? runner files l with
  | none => rw [hout] at h; cases h
  | some output =>
    rw [hout] at h
    change p ∈ foundIn l root output at h
    rw [foundIn] at h
    split at h
    next => cases h
    next =>
      cases hread : l.read root output with
      | error e => rw [hread] at h; cases h
      | ok fs => rw [hread] at h; exact source_of_mem_read hread p h

theorem source_of_mem_contribution {file : String} {i : Issue}
    (h : i ∈ contribution runner c root files l file) : i.source = l.name := by
  rw [contribution] at h
  obtain ⟨-, h⟩ := List.mem_ite_nil_right.1 h
  obtain ⟨p, hp, rfl⟩ := List.mem_map.1 h
  exact source_of_mem_found (List.mem_filter.1 hp).1

theorem name_inj {l l' : Linter} (h : l.name = l'.name) : l = l' := by
  cases l <;> cases l' <;> simp_all [name]

theorem filter_contribution (l l' : Linter) (file : String) :
    (contribution runner c root files l' file).filter (·.source = l.name) =
      if l' = l then contribution runner c root files l file else [] := by
  split
  next hl =>
    subst hl
    exact List.filter_eq_self.2 fun i hi => decide_eq_true (source_of_mem_contribution hi)
  next hl =>
    refine List.filter_eq_nil_iff.2 fun i hi hsource => hl (name_inj ?_)
    exact (source_of_mem_contribution hi).symm.trans (of_decide_eq_true hsource)

/-- A linter that was not run, or whose output is not read, contributes nothing. -/
theorem contribution_eq_nil (h : ∀ output, output? runner files l = some output →
    ∃ e, l.read root output = .error e) (file : String) :
    contribution runner c root files l file = [] := by
  have hfound : found runner root files l = [] := by
    rw [found]
    cases hout : output? runner files l with
    | none => rfl
    | some output =>
      obtain ⟨e, hread⟩ := h output hout
      simp [foundIn, hread, Except.toOption]
  rw [contribution, hfound]
  exact ite_self []

/-- The issues of a linter are what it contributes on its own. -/
theorem filter_issuesOf (hrunner : Answers runner) {groups : List (String × List Issue)}
    (h : (run runner c root files).outcome.1 = .ok groups) (l : Linter) (file : String) :
    (issuesOf groups file).filter (·.source = l.name) =
      contribution runner c root files l file := by
  rw [issuesOf_of_run hrunner h, List.filter_append, filter_contribution, filter_contribution]
  cases l <;> simp

/-- A run breaks off for output of ESLint only, for an infinite column or JSON that is nested too
deep, where this is the first thing that stops the reading. Otherwise the issues of each file are
those of ESLint and then those of flake8. A linter contributes nothing where it was not run or
its output is not read, and the same whatever the other one does. (The files have no links: one
that leads back to itself would be no more handled than these two causes.) -/
theorem run_failSoft (hrunner : Answers runner) (c : Config.Linters) (root : Path)
    (files : List String) :
    (∀ f, (run runner c root files).outcome.1 = .error f ↔ c.eslint = true ∧
      ∃ output, output? runner files eslint = some output ∧ Text.isBlankText output = false ∧
        (Eslint.outputStops root output).head? = some (.fault f) ∧ isHandled f = false) ∧
    (∀ f, isHandled f = false ↔ f = .infinityToInteger ∨ ∃ k, f = .tooDeepJson k) ∧
    (∀ output, .fault .infinityToInteger ∈ Eslint.outputStops root output ↔
      Eslint.HasInfiniteColumn output) ∧
    (∀ output k, .fault (.tooDeepJson k) ∈ Eslint.outputStops root output ↔
      Json.parse (Text.lettersOf output) = .error (.tooDeep k)) ∧
    ∀ groups, (run runner c root files).outcome.1 = .ok groups →
      (groups.map Prod.fst).Nodup ∧
      (∀ file, issuesOf groups file = contribution runner c root files eslint file ++
        contribution runner c root files flake8 file) ∧
      ∀ l file,
        (issuesOf groups file).filter (·.source = l.name) =
          contribution runner c root files l file ∧
        ((∀ output, output? runner files l = some output → ∃ e, l.read root output = .error e) →
          (issuesOf groups file).filter (·.source = l.name) = []) ∧
        ∀ runner' c', Answers runner' → l.isEnabled c' = l.isEnabled c →
          output? runner' files l = output? runner files l →
          ∀ groups', (run runner' c' root files).outcome.1 = .ok groups' →
            (issuesOf groups' file).filter (·.source = l.name) =
              (issuesOf groups file).filter (·.source = l.name) := by
  refine ⟨fun f => ?_, fun f => isHandled_eq_false,
    fun output => Eslint.infinity_mem_outputStops, fun output k => Eslint.tooDeep_mem_outputStops,
    fun groups h => ⟨?_, issuesOf_of_run hrunner h, fun l file => ⟨filter_issuesOf hrunner h l file,
      fun hnone => ?_, fun runner' c' hrunner' henabled hsame groups' h' => ?_⟩⟩⟩
  · rw [run_fst hrunner, Stop.barring_eq_error]
    cases c.eslint with
    | false => simp
    | true =>
      have hhead (o : Option Fault) : o.toList.head? = o := by cases o <;> rfl
      rw [if_pos rfl, hhead, break?_eslint_eq_some]
      simp only [true_and]
  · rw [run_fst hrunner, Stop.barring_eq_ok] at h
    rw [← h.2]
    exact nodup_byFile _
  · rw [filter_issuesOf hrunner h, contribution_eq_nil hnone]
  · rw [filter_issuesOf hrunner h, filter_issuesOf hrunner' h', contribution, contribution,
      henabled, found, found, hsame]

/-- A runner for which ESLint prints a text and flake8 a finding. -/
def printing (text : String) : Command.Runner := fun args _ =>
  .ok ⟨args, 1, if args.head? = some "npx" then text else "a.py:1:2: F401 x\n", ""⟩

/-- Where the output of ESLint is not read, there is still the finding of flake8. -/
theorem run_failSoft_unread :
    let groups := [("a.py", [flake8.issue 1 2 "F401: x" .high "F401"])]
    (run (printing "Oops") ⟨true, true⟩ (Path.ofString "/ws") ["a.js", "a.py"]).outcome.1 =
        .ok groups ∧
      (issuesOf groups "a.js").filter (·.source = eslint.name) = [] ∧
      (issuesOf groups "a.py").filter (·.source = flake8.name) = issuesOf groups "a.py" := by
  have hrunner : Answers (printing "Oops") := nofun
  have hrun : (run (printing "Oops") ⟨true, true⟩ (Path.ofString "/ws")
      ["a.js", "a.py"]).outcome.1 = .ok [("a.py", [flake8.issue 1 2 "F401: x" .high "F401"])] :=
    Stop.eq_ok_of_toOption (by decide +kernel)
  obtain ⟨-, -, -, -, hgroups⟩ := run_failSoft hrunner ⟨true, true⟩ (Path.ofString "/ws")
    ["a.js", "a.py"]
  obtain ⟨-, -, hlinters⟩ := hgroups _ hrun
  refine ⟨hrun, (hlinters eslint "a.js").2.1 fun output hout => ?_, by decide +kernel⟩
  have hprinted : output? (printing "Oops") ["a.js", "a.py"] eslint = some "Oops" := by
    decide +kernel
  obtain rfl := Option.some.inj (hprinted.symm.trans hout)
  exact ⟨_, (Eslint.read_stopsFor (Path.ofString "/ws") "Oops" (.fault .malformedJson)).2
    (by decide +kernel)⟩

def infiniteColumn : String :=
  "[\x7b\"filePath\":\"a.js\",\"messages\":[\x7b\"line\":1,\"column\":1e999\x7d]\x7d]"

/-- An infinite column breaks the run off, and with it the finding of flake8 is lost. -/
theorem run_breaksOff_infiniteColumn :
    (run (printing infiniteColumn) ⟨true, true⟩ (Path.ofString "/ws")
      ["a.js", "a.py"]).outcome.1 = .error .infinityToInteger := by
  have hrunner : Answers (printing infiniteColumn) := nofun
  rw [run_fst hrunner, Stop.barring_eq_error]
  decide +kernel

end RuleReview.Linter
