import RuleReview.CommandLine.Run
import RuleReview.Proofs.Report.Record
import RuleReview.Proofs.Rule.Walk
import RuleReview.Proofs.Stop

/-! Listings of the rules. Three numbers of rules are told: that of each collection is counted
along its trees, what is logged where rules are loaded is the sum of these, and a listing sums
up the categories that a walk meets and that have rules. Proved: they are the same. -/

namespace RuleReview

namespace Rule.Source

/-! ### What is logged -/

/-- The entry that tells the number of rules of a collection. -/
def countEntry (c : Collection) : Log.Entry :=
  ⟨.info, .rules, s!"{c.name}: {c.ruleCount} rule(s)", none⟩

/-- The entry that tells the number of rules of all collections. -/
def totalEntry (count : Nat) : Log.Entry := ⟨.info, .rules, s!"total: {count} rule(s)", none⟩

/-- The entries that tell how many rules some collections have. -/
def countEntries (cs : List Collection) : List Log.Entry :=
  cs.map countEntry ++ [totalEntry (total (cs.map (·.ruleCount)))]

/-- The loop over collections logs one entry for each. -/
theorem forIn_countEntry (cs : List Collection) (j : Journal) :
    (forIn cs PUnit.unit (fun c _ => do
      LogM.info .rules (s!"{c.name}: {c.ruleCount} rule(s)")
      pure (.yield PUnit.unit)) : LogM Fault PUnit) j =
      (.ok PUnit.unit, { j with entries := j.entries ++ cs.map countEntry }) := by
  induction cs generalizing j with
  | nil => simp [Stop.pure_apply]
  | cons c cs ih =>
    rw [List.forIn_cons, Stop.bind_apply, List.map_cons, List.append_cons]
    exact ih _

theorem logCounts_apply (cs : List Collection) (j : Journal) :
    logCounts cs j = (.ok (), { j with entries := j.entries ++ countEntries cs }) := by
  rw [logCounts, Stop.bind_apply, forIn_countEntry, countEntries, ← List.append_assoc]
  rfl

theorem countEntries_suffix {w : Workspace} {ss : List Source} {cs : List Collection} {j : Journal}
    (h : (loadAll w ss j).1 = .ok cs) : countEntries cs <:+ (loadAll w ss j).2.entries := by
  rw [loadAll, Stop.bind_apply] at h ⊢
  generalize loadEach w ss j = loaded at h ⊢
  obtain ⟨r, j'⟩ := loaded
  cases r with
  | error f => cases h
  | ok cs' =>
    simp only [Stop.bind_apply, logCounts_apply, Stop.pure_apply] at h ⊢
    cases h
    exact List.suffix_append _ _

end Rule.Source

theorem Analyzer.countEntries_suffix {w : Workspace} {c : Config} {a : Analyzer} {j : Journal}
    (h : (build w c j).1 = .ok a) :
    Rule.Source.countEntries a.collections <:+ (build w c j).2.entries := by
  rw [build, Stop.bind_apply] at h ⊢
  cases hload : Rule.Source.loadAll w (Rule.Source.ofConfig c) j with
  | mk r j' =>
    rw [hload] at h
    cases r with
    | error f => cases h
    | ok cs =>
      cases h
      have hsuffix := Rule.Source.countEntries_suffix (congrArg Prod.fst hload)
      rw [hload] at hsuffix
      exact hsuffix

namespace CommandLine

variable {σ : Type} {s : Setting σ} {o : Order} {format : String} {st : Session σ × Journal}
  {a : Analyzer}

/-! ### The command -/

theorem loadConfig_of_error {project : Path} {e : Config.Failure}
    (h : Config.load s.words s.workspace project = .error e) :
    ∃ cause, loadConfig s project = (throw cause : TaskM σ Config) := by
  rw [loadConfig, h]
  cases e with
  | invalid e =>
    dsimp only
    rw [complain]
    split
    next => exact ⟨_, rfl⟩
    next => exact ⟨_, rfl⟩
  | fault f => exact ⟨_, rfl⟩

/-- An analyzer that is loaded leaves the numbers of its rules at the end of the journal, and
nothing is printed. -/
theorem loadAnalyzer_eq_ok {project : Path} (h : (loadAnalyzer s project st).1 = .ok a) :
    Rule.Source.countEntries a.collections <:+ (loadAnalyzer s project st).2.2.entries ∧
      (loadAnalyzer s project st).2.1 = st.1 := by
  obtain ⟨session, j⟩ := st
  cases hload : Config.load s.words s.workspace project with
  | error e =>
    obtain ⟨cause, hcause⟩ := loadConfig_of_error hload
    rw [loadAnalyzer, hcause] at h
    cases h
  | ok c =>
    have hrun : loadAnalyzer s project (session, j) =
        ((Analyzer.build s.workspace c j).1.mapError fun f => .broken (.fault f),
          (session, (Analyzer.build s.workspace c j).2)) := by
      rw [loadAnalyzer, loadConfig, hload]
      simp only [pure_bind, WorldM.mapError_apply]
      rfl
    rw [hrun] at h ⊢
    refine ⟨Analyzer.countEntries_suffix ?_, rfl⟩
    cases hbuild : (Analyzer.build s.workspace c j).1 with
    | error f => rw [hbuild] at h; cases h
    | ok a' => rw [hbuild] at h; cases h; rfl

theorem length_rules_pos {c : Rule.Collection} {k : Rule.Category} (h : (c, k) ∈ ruleRows a) :
    0 < k.rules.length := by
  obtain ⟨c', -, h⟩ := List.mem_flatMap.1 h
  obtain ⟨k', hk, heq⟩ := List.mem_map.1 h
  cases heq
  simpa [List.length_pos_iff] using (List.mem_filter.1 hk).2

/-- Categories without rules, which are not listed, do not count. -/
theorem total_ruleRows (a : Analyzer) :
    total ((ruleRows a).map fun (_, k) => k.rules.length) =
      total (a.collections.map (·.ruleCount)) := by
  rw [ruleRows, List.map_flatMap, total_flatMap]
  refine congrArg total (List.map_congr_left fun c _ => ?_)
  rw [List.map_map, c.ruleCount_eq_total]
  exact total_map_filter _ (fun k hnone => by simpa using hnone) _

theorem listRules_of_json (h : (loadAnalyzer s o.project st).1 = .ok a)
    (hformat : formatKey format = "json") :
    (listRules s o format st).1 = .ok () ∧ (listRules s o format st).2.1.printed =
      st.1.printed ++
        Console.page [Json.pretty (.list ((ruleRows a).map fun (c, k) => rowData c k))] := by
  obtain ⟨-, hsession⟩ := loadAnalyzer_eq_ok h
  rw [listRules, Stop.bind_apply]
  generalize loadAnalyzer s o.project st = loaded at h hsession ⊢
  obtain ⟨r, session, j⟩ := loaded
  cases h
  cases hsession
  dsimp only
  rw [hformat]
  exact ⟨rfl, rfl⟩

theorem listRules_of_terminal (h : (loadAnalyzer s o.project st).1 = .ok a)
    (hformat : formatKey format = "terminal") {ls : Console.Lines}
    (htable : Console.Table.render s.width (rulesTable (ruleRows a)) = .ok ls) :
    (listRules s o format st).1 = .ok () ∧ (listRules s o format st).2.1.printed =
      st.1.printed ++ Console.page ls ++ Console.page (Console.literal s.width
        s!"Total: {total (a.collections.map (·.ruleCount))} pattern(s)") := by
  obtain ⟨-, hsession⟩ := loadAnalyzer_eq_ok h
  rw [listRules, Stop.bind_apply]
  generalize loadAnalyzer s o.project st = loaded at h hsession ⊢
  obtain ⟨r, session, j⟩ := loaded
  cases h
  cases hsession
  dsimp only
  rw [hformat]
  rw [htable, total_ruleRows]
  exact ⟨rfl, rfl⟩

theorem natural?_rowData (c : Rule.Collection) (k : Rule.Category) :
    (rowData c k).natural? ["patterns"] = some k.rules.length := rfl

/-- A walk through a collection meets every category once, before those below it and before the
later ones beside it. The rules of a collection are counted as those of the categories that it
meets; where rules are loaded, the sum over all collections is logged, and it is the sum of the
numbers in a listing and the total that is printed below one. -/
theorem listRules_total (h : (loadAnalyzer s o.project st).1 = .ok a) :
    (∀ c : Rule.Collection, c.ruleCount = total (c.walk.map fun k => k.rules.length) ∧
      ∃ ways : List (List Nat), ways.Pairwise (· < ·) ∧
        (∀ way, way ∈ ways ↔ (Rule.Category.followFrom c.categories way).isSome) ∧
        ways.map (Rule.Category.followFrom c.categories) = c.walk.map some) ∧
    let count := total (a.collections.map (·.ruleCount))
    let rows := (ruleRows a).map fun (c, k) => rowData c k
    a.collections.map Rule.Source.countEntry ++ [Rule.Source.totalEntry count] <:+
        (loadAnalyzer s o.project st).2.2.entries ∧
      (∃ counts, rows.map (Data.natural? ["patterns"]) = counts.map some ∧
        (∀ n ∈ counts, 0 < n) ∧ total counts = count) ∧
      (formatKey format = "json" →
        (listRules s o format st).1 = .ok () ∧
        (listRules s o format st).2.1.printed =
          st.1.printed ++ Console.page [Json.pretty (.list rows)]) ∧
      (formatKey format = "terminal" → ∀ ls,
        Console.Table.render s.width (rulesTable (ruleRows a)) = .ok ls →
        (listRules s o format st).1 = .ok () ∧
        (listRules s o format st).2.1.printed =
          st.1.printed ++ Console.page ls ++
            Console.page (Console.literal s.width s!"Total: {count} pattern(s)")) := by
  refine ⟨fun c => ⟨c.ruleCount_eq_total, Rule.Category.walkAll_eq_ways c.categories⟩,
    (loadAnalyzer_eq_ok h).1, ⟨(ruleRows a).map fun (_, k) => k.rules.length, ?_, ?_,
    total_ruleRows a⟩, listRules_of_json h, fun hformat ls => listRules_of_terminal h hformat⟩
  · rw [List.map_map, List.map_map]
    exact List.map_congr_left fun (c, k) _ => natural?_rowData c k
  · intro n hn
    obtain ⟨⟨c, k⟩, hrow, rfl⟩ := List.mem_map.1 hn
    exact length_rules_pos hrow

/-- What works on a directory with a source that has a group with a rule of its own, a group below
it with another one, and a group without rules. -/
def settingOfGroups : Setting Unit where
  workspace := ⟨Path.ofString "/ws", .directory [
    ("pyproject.toml", .file "[tool.codesentry.rules]\nsources=[]\nextra.s=\"s\"\n".toUTF8),
    ("s", .file ("\x7b\"g\":\x7b" ++
      "\"patterns\":[\x7b\"pattern\":\"x\",\"description\":\"d\"\x7d]," ++
      "\"a\":\x7b\"patterns\":[\x7b\"pattern\":\"y\",\"description\":\"e\"\x7d]\x7d," ++
      "\"b\":\x7b\"patterns\":[]\x7d\x7d\x7d").toUTF8)]⟩
  input := ""
  width := 80
  runner := fun args _ => .ok ⟨args, 0, "", ""⟩
  client := ⟨fun _ _ => (.unreachable, ()), fun _ => (0, ())⟩
  nameOf := fun _ => ""
  words := fun _ => ""
  hasContext := true

/-- Two rules are counted, logged and listed. -/
theorem listRules_total_groups : ∃ a counts,
    let st : Session Unit × Journal := (⟨⟨(), []⟩, ""⟩, {})
    let o : Order := ⟨.normal, Path.ofString "/ws", .rules "json"⟩
    let rows := (ruleRows a).map fun (c, k) => rowData c k
    (loadAnalyzer settingOfGroups o.project st).1 = .ok a ∧
      a.collections.map (fun c => c.walk.map (·.key)) = [["g", "a", "b"]] ∧
      [Rule.Source.totalEntry 2] <:+ (loadAnalyzer settingOfGroups o.project st).2.2.entries ∧
      rows.map (Data.natural? ["patterns"]) = counts.map some ∧ total counts = 2 ∧
      (listRules settingOfGroups o "json" st).2.1.printed =
        Console.page [Json.pretty (.list rows)] := by
  have hload : (loadAnalyzer settingOfGroups (Path.ofString "/ws")
      (⟨⟨(), []⟩, ""⟩, {})).1.toOption.map (fun a => (a.collections.map fun c =>
        c.walk.map (·.key), total (a.collections.map (·.ruleCount)))) =
      some ([["g", "a", "b"]], 2) := by
    decide +kernel
  obtain ⟨a, ha, hloaded⟩ := Option.map_eq_some_iff.1 hload
  obtain ⟨hkeys, hcount⟩ := Prod.mk.inj hloaded
  replace ha := RuleReview.Stop.eq_ok_of_toOption ha
  obtain ⟨-, hlog, ⟨counts, hrows, -, htotal⟩, hjson, -⟩ := @listRules_total Unit settingOfGroups
    ⟨.normal, Path.ofString "/ws", .rules "json"⟩ "json" (⟨⟨(), []⟩, ""⟩, {}) a ha
  rw [hcount] at hlog htotal
  exact ⟨a, counts, ha, hkeys, (List.suffix_append _ _).trans hlog, hrows, htotal,
    (hjson (by decide +kernel)).2⟩

end CommandLine
end RuleReview
