import Mathlib.Data.List.TakeWhile
import RuleReview.Config.Table
import RuleReview.Proofs.Decimal.Nearest
import RuleReview.Proofs.Stop
import RuleReview.Proofs.Text.Words

/-! The readers of a configuration. Where they do not stop, each value is one that its check lets
through, or the one that holds where nothing is given. What is wrong with a table is a list in the
order of the checks: no configuration is read exactly where the list is not empty, and its first
member is told. -/

namespace RuleReview.Config

section values

variable {name path key : String} {d : Option Data} {t ms : Table}

/-! ### Sections -/

def membersOf (d : Option Data) : Table := (d.bind Data.members?).getD []

theorem section_eq_ok (h : section_ name d = .ok ms) : ms = membersOf d := by
  rw [section_.eq_def] at h
  split at h
  next => cases h; rfl
  next => cases h; rfl
  next => cases h; rfl
  next => cases h

/-! ### Options -/

theorem readCount_pos {fallback n : Nat} (hfallback : 0 < fallback)
    (h : readCount path key fallback t = .ok n) : 0 < n := by
  rw [readCount] at h
  split at h
  next => cases h; exact hfallback
  next m _ =>
    split at h
    next hm => cases h; omega
    next => cases h
  next => cases h

theorem readRatio_bounds {fallback x : Rat} (hfallback : 0 ≤ fallback ∧ fallback ≤ 1)
    (h : readRatio path key fallback t = .ok x) : 0 ≤ x ∧ x ≤ 1 := by
  rw [readRatio] at h
  have hwithin {y : Rat} (hy : (if 0 ≤ y ∧ y ≤ 1 then .ok y else
      .error (.invalid (.expected (path ++ "." ++ key) .ratio)) : Except Failure Rat) = .ok x) :
      0 ≤ x ∧ x ≤ 1 := by
    split at hy
    next hbounds => cases hy; exact hbounds
    next => cases hy
  dsimp only at h
  split at h
  next => cases h; exact hfallback
  next n _ =>
    split at h
    next => cases h
    next => exact hwithin h
  next => exact hwithin h
  next => cases h

theorem readLanguage_mem {language : String} (h : readLanguage t = .ok language) :
    language ∈ Language.names := by
  rw [readLanguage] at h
  split at h
  next =>
    obtain rfl := Except.ok.inj h
    decide
  next s _ =>
    split at h
    next => cases h
    next =>
      split at h
      next hknown =>
        obtain rfl := Except.ok.inj h
        rw [Language.isKnown, List.contains_iff_mem] at hknown
        exact hknown
      next => cases h
  next => cases h

/-! ### Sources of rules -/

theorem readSources_subset {names : List String} (h : readSources d = .ok names) :
    names ⊆ builtinSources := by
  rw [readSources.eq_def] at h
  split at h
  next => cases h; exact List.Subset.refl _
  next xs =>
    split at h
    next => cases h
    next ss _ =>
      dsimp only at h
      split at h
      next hknown =>
        cases h
        intro name hname
        rw [List.isEmpty_iff, List.filter_eq_nil_iff] at hknown
        simpa using hknown name hname
      next => cases h
  next => cases h

theorem allTexts?_eq_some {xs : List Data} {ss : List String} (h : allTexts? xs = some ss) :
    xs = ss.map .text := by
  induction xs generalizing ss with
  | nil => cases h; rfl
  | cons x xs ih =>
    cases x with
    | text s =>
      obtain ⟨rest, hrest, rfl⟩ := Option.map_eq_some_iff.1 h
      rw [List.map_cons, ← ih hrest]
    | _ => cases h

theorem strip_of_isBlankText {s : String} (h : Text.isBlankText s = true) : Text.strip s = "" := by
  rw [Text.isBlankText, List.all_eq_true] at h
  rw [Text.strip, Text.trim_eq_nil h, String.ofList_nil]

/-- Whether the built-in source of a name is to be used: where no sources are listed, all are. -/
def enables (d : Option Data) (name : String) : Bool :=
  match d with
  | none => true
  | some d => (d.items?.getD []).any fun x => x.text?.map Text.strip == some name

theorem contains_of_readSources {names : List String} (h : readSources d = .ok names)
    (hname : name ∈ builtinSources) : names.contains name = enables d name := by
  rw [readSources.eq_def] at h
  split at h
  next =>
    cases h
    exact List.contains_iff_mem.2 hname
  next xs =>
    split at h
    next => cases h
    next ss hss =>
      obtain rfl := allTexts?_eq_some hss
      dsimp only at h
      split at h
      next =>
        cases h
        have hgiven (s : String) (hs : Text.strip s = name) : Text.isBlankText s = false := by
          rw [Bool.eq_false_iff]
          intro hblank
          rw [strip_of_isBlankText hblank] at hs
          subst hs
          exact absurd hname (by decide)
        have hiff : (∃ s ∈ ss, Text.isBlankText s = false ∧ Text.strip s = name) ↔
            ∃ s ∈ ss, Text.strip s = name :=
          exists_congr fun s => and_congr_right fun _ => and_iff_right_of_imp (hgiven s)
        rw [Bool.eq_iff_iff]
        simpa [enables, Data.items?, Data.text?, and_assoc] using hiff
      next => cases h
  next => cases h

/-- Whether a member names a further source: a name that is not that of a built-in one, and a
path that is not blank. -/
def IsExtra (m : String × Data) : Prop :=
  m.1 ∉ builtinSources ∧ ∃ path, m.2 = .text path ∧ ¬ Text.isBlankText path

/-- The name and the path that a member tells. -/
def extraOf (m : String × Data) : String × String := (m.1, Text.strip (m.2.text?.getD ""))

theorem readExtra_eq_ok {extra : List (String × String)} (h : readExtra ms = .ok extra) :
    (∀ m ∈ ms, IsExtra m) ∧ extra = ms.map extraOf := by
  induction ms generalizing extra with
  | nil => cases h; exact ⟨nofun, rfl⟩
  | cons m ms ih =>
    obtain ⟨name, d⟩ := m
    cases d with
    | text path =>
      rw [readExtra] at h
      dsimp only at h
      split at h
      next => cases h
      next hblank =>
        split at h
        next => cases h
        next htaken =>
          obtain ⟨rest, hrest, heq⟩ := Stop.bind_eq_ok.1 h
          cases heq
          obtain ⟨hall, rfl⟩ := ih hrest
          exact ⟨List.forall_mem_cons.2 ⟨⟨by simpa using htaken, path, rfl, hblank⟩, hall⟩, rfl⟩
    | _ => cases h

theorem keys_of_readExtra {extra : List (String × String)} (h : readExtra ms = .ok extra) :
    extra.map Prod.fst = ms.map Prod.fst := by
  rw [(readExtra_eq_ok h).2, List.map_map]
  rfl

theorem IsExtra.isTrimmed {m : String × Data} (h : IsExtra m) :
    Text.IsTrimmed (extraOf m).2.toList := by
  obtain ⟨-, path, hpath, hblank⟩ := h
  rw [extraOf, hpath, Text.strip, String.toList_ofList]
  exact Text.isTrimmed_trim (by simpa [Data.text?, Text.isBlankText] using hblank)

theorem isNone_lookup (name : String) (extra : List (String × String)) :
    (extra.lookup name).isNone = !(extra.map Prod.fst).contains name := by
  induction extra with
  | nil => rfl
  | cons source extra ih =>
    rw [List.lookup_cons, List.map_cons, List.contains_cons]
    cases name == source.1 with
    | true => rfl
    | false => exact ih

/-- The kind that a value tells. -/
def kindOf : Data → Issue.Kind
  | .text "security" => .security
  | _ => .quality

theorem readKind_eq_ok {kind : Issue.Kind} {d : Data} (h : readKind name d = .ok kind) :
    kind = kindOf d := by
  rw [readKind.eq_def] at h
  split at h <;> cases h <;> rfl

theorem readKinds_eq_ok {extra : List (String × String)} {kinds : List (String × Issue.Kind)}
    (h : readKinds extra ms = .ok kinds) :
    ms.map Prod.fst ⊆ extra.map Prod.fst ∧ kinds = ms.map fun m => (m.1, kindOf m.2) := by
  induction ms generalizing kinds with
  | nil => cases h; exact ⟨List.nil_subset _, rfl⟩
  | cons m ms ih =>
    obtain ⟨name, d⟩ := m
    obtain ⟨kind, hkind, h⟩ := Stop.bind_eq_ok.1 h
    dsimp only at h
    rw [isNone_lookup] at h
    split at h
    next => cases h
    next hsource =>
      obtain ⟨rest, hrest, heq⟩ := Stop.bind_eq_ok.1 h
      cases heq
      obtain ⟨hsub, rfl⟩ := ih hrest
      rw [readKind_eq_ok hkind]
      exact ⟨List.cons_subset.2 ⟨by simpa using hsource, hsub⟩, rfl⟩

end values

section complaints

open Stop (StopsFor causes mem_causes stopsFor_ok stopsFor_error stopsFor_causes)

variable {name path key : String} {t : Table} {f : Fault}

/-! ### Complaints -/

/-- The complaints about a member that names a further source. -/
def extraComplaints : String × Data → List Failure
  | (name, .text path) =>
    (if Text.isBlankText path then [.invalid (.pathNotText name)] else []) ++
      if builtinSources.contains name then [.invalid (.nameTaken name)] else []
  | (name, _) => [.invalid (.pathNotText name)]

/-- The complaints about a member that tells the kind of a source, one of some names. -/
def kindComplaints (names : List String) (m : String × Data) : List Failure :=
  causes (readKind m.1 m.2) ++
    if !names.contains m.1 then [.invalid (.kindWithoutSource m.1)] else []

/-- The complaints about the section about rules. -/
def rulesComplaints (d : Option Data) : List Failure :=
  let t := membersOf d
  let extra := Data.lookup "extra" t
  let kinds := option? "extra-kinds" t
  causes (section_ "rules" d) ++
    causes (readSources (Data.lookup "sources" t)) ++
    causes (section_ "rules.extra" extra) ++
    (membersOf extra).flatMap extraComplaints ++
    causes (section_ "rules.extra-kinds" kinds) ++
    (membersOf kinds).flatMap (kindComplaints ((membersOf extra).map Prod.fst))

/-- The complaint about two bounds of which the second one must not be the lower one. -/
def orderComplaints (low high : Except Failure Nat) : List Failure :=
  match low, high with
  | .ok low, .ok high => if high < low then [.invalid .criticalBelowHigh] else []
  | _, _ => []

/-- The complaints about the section about metrics. -/
def metricsComplaints (d : Option Data) : List Failure :=
  let t := membersOf d
  let count key fallback := readCount "metrics" key fallback t
  let ratio key fallback := readRatio "metrics" key fallback t
  let base : Thresholds := {}
  let high := count "complexity-high" base.complexityHigh
  let critical := count "complexity-critical" base.complexityCritical
  causes (section_ "metrics" d) ++
    causes high ++
    causes critical ++
    orderComplaints high critical ++
    causes (count "function-length" base.functionLength) ++
    causes (count "nesting-depth" base.nestingDepth) ++
    causes (ratio "duplication-ratio" base.duplicationRatio) ++
    causes (ratio "comment-ratio" base.commentRatio) ++
    causes (count "comment-min-lines" base.commentMinLines)

/-- The complaints about the section about comments. -/
def commentsComplaints (d : Option Data) : List Failure :=
  causes (section_ "github" d) ++
    causes (readCount "github" "max-comments" 50 (membersOf d)) ++
    causes (readBoolean "github" "count-hunk-headers" false (membersOf d))

/-- The complaints about the section about linters. -/
def lintersComplaints (d : Option Data) : List Failure :=
  causes (section_ "linters" d) ++
    causes (readBoolean "linters" "eslint" false (membersOf d)) ++
    causes (readBoolean "linters" "flake8" false (membersOf d))

def complaints (t : Table) : List Failure :=
  causes (readLanguage t) ++
    rulesComplaints (Data.lookup "rules" t) ++
    metricsComplaints (Data.lookup "metrics" t) ++
    commentsComplaints (Data.lookup "github" t) ++
    lintersComplaints (Data.lookup "linters" t)

/-! ### The first complaint is told -/

theorem readExtra_stopsFor (ms : Table) : StopsFor (readExtra ms) (ms.flatMap extraComplaints) := by
  induction ms with
  | nil => exact stopsFor_ok _
  | cons m ms ih =>
    obtain ⟨name, d⟩ := m
    rw [List.flatMap_cons]
    cases d with
    | text path =>
      rw [readExtra, extraComplaints, List.append_assoc]
      exact StopsFor.guard fun _ => StopsFor.guard fun _ => ih.pure _
    | _ => exact stopsFor_error _ _

theorem readKinds_stopsFor (extra : List (String × String)) (ms : Table) :
    StopsFor (readKinds extra ms) (ms.flatMap (kindComplaints (extra.map Prod.fst))) := by
  induction ms with
  | nil => exact stopsFor_ok _
  | cons m ms ih =>
    obtain ⟨name, d⟩ := m
    simp only [readKinds, isNone_lookup, List.flatMap_cons, kindComplaints, List.append_assoc]
    exact (stopsFor_causes _).bind fun kind _ => StopsFor.guard fun _ => ih.pure _

theorem readRules_stopsFor (d : Option Data) : StopsFor (readRules d) (rulesComplaints d) := by
  simp only [rulesComplaints, List.append_assoc]
  refine (stopsFor_causes _).bind fun t ht => ?_
  obtain rfl := section_eq_ok ht
  refine (stopsFor_causes _).bind fun sources _ => (stopsFor_causes _).bind fun extraMembers h => ?_
  obtain rfl := section_eq_ok h
  refine (readExtra_stopsFor _).bind fun extra hextra =>
    (stopsFor_causes _).bind fun kindMembers h => ?_
  obtain rfl := section_eq_ok h
  rw [← keys_of_readExtra hextra]
  exact (readKinds_stopsFor extra _).pure _

theorem readMetrics_stopsFor (d : Option Data) :
    StopsFor (readMetrics d) (metricsComplaints d) := by
  simp only [metricsComplaints, List.append_assoc]
  refine (stopsFor_causes _).bind fun t ht => ?_
  obtain rfl := section_eq_ok ht
  refine (stopsFor_causes _).bind fun high hhigh =>
    (stopsFor_causes _).bind fun critical hcritical => ?_
  rw [hhigh, hcritical, orderComplaints]
  refine StopsFor.guard fun _ => ?_
  refine (stopsFor_causes _).bind fun _ _ => (stopsFor_causes _).bind fun _ _ => ?_
  refine (stopsFor_causes _).bind fun _ _ => (stopsFor_causes _).bind fun _ _ => ?_
  exact (stopsFor_causes _).pure _

theorem readComments_stopsFor (d : Option Data) :
    StopsFor (readComments d) (commentsComplaints d) := by
  simp only [commentsComplaints, List.append_assoc]
  refine (stopsFor_causes _).bind fun t ht => ?_
  obtain rfl := section_eq_ok ht
  exact (stopsFor_causes _).bind fun _ _ => (stopsFor_causes _).pure _

theorem readLinters_stopsFor (d : Option Data) :
    StopsFor (readLinters d) (lintersComplaints d) := by
  simp only [lintersComplaints, List.append_assoc]
  refine (stopsFor_causes _).bind fun t ht => ?_
  obtain rfl := section_eq_ok ht
  exact (stopsFor_causes _).bind fun _ _ => (stopsFor_causes _).pure _

theorem ofTable_stopsFor (project : Path) (t : Table) :
    StopsFor (ofTable project t) (complaints t) := by
  simp only [complaints, List.append_assoc]
  refine (stopsFor_causes _).bind fun _ _ => (readRules_stopsFor _).bind fun _ _ => ?_
  refine (readMetrics_stopsFor _).bind fun _ _ => (readComments_stopsFor _).bind fun _ _ => ?_
  exact (readLinters_stopsFor _).pure _

/-! ### What is not told as an error of the configuration -/

/-- The cause for which a table, instead of being refused, ends the reading: a kind that is a
list or a table, which cannot be compared, or a ratio that is an integer past the floats. -/
def Breaks (t : Table) : Fault → Prop
  | .wrongKind => ∃ m ∈ membersOf (option? "extra-kinds" (membersOf (Data.lookup "rules" t))),
      (∃ xs, m.2 = .list xs) ∨ ∃ ms, m.2 = .object ms
  | .integerTooLarge => ∃ key ∈ ["duplication-ratio", "comment-ratio"], ∃ n : Int,
      option? key (membersOf (Data.lookup "metrics" t)) = some (.integer n) ∧
        Decimal.leastTooLarge ≤ n.natAbs
  | _ => False

theorem section_ne_fault {d : Option Data} : section_ name d ≠ .error (.fault f) := by
  rw [section_.eq_def]
  split <;> simp

theorem readCount_ne_fault {fallback : Nat} :
    readCount path key fallback t ≠ .error (.fault f) := by
  rw [readCount]
  split
  next => simp
  next => split <;> simp
  next => simp

theorem readBoolean_ne_fault {fallback : Bool} :
    readBoolean path key fallback t ≠ .error (.fault f) := by
  rw [readBoolean]
  split <;> simp

theorem readLanguage_ne_fault : readLanguage t ≠ .error (.fault f) := by
  rw [readLanguage]
  split
  next => simp
  next =>
    split
    next => simp
    next => split <;> simp
  next => simp

theorem readSources_ne_fault {d : Option Data} : readSources d ≠ .error (.fault f) := by
  rw [readSources.eq_def]
  split
  next => simp
  next =>
    split
    next => simp
    next =>
      dsimp only
      split <;> simp
  next => simp

theorem readRatio_eq_fault {fallback : Rat} :
    readRatio path key fallback t = .error (.fault f) ↔ f = .integerTooLarge ∧
      ∃ n : Int, option? key t = some (.integer n) ∧ Decimal.leastTooLarge ≤ n.natAbs := by
  have hwithin (y : Rat) : (if 0 ≤ y ∧ y ≤ 1 then .ok y else
      .error (.invalid (.expected (path ++ "." ++ key) .ratio)) : Except Failure Rat) ≠
      .error (.fault f) := by
    split <;> simp
  rw [readRatio]
  cases hgiven : option? key t with
  | none => simp
  | some d =>
    cases d with
    | integer n =>
      cases hx : Decimal.Binary64.ofRat n with
      | infinity negative =>
        have hlarge : Decimal.leastTooLarge ≤ n.natAbs :=
          Decimal.ofRat_eq_infinity_iff.1 ⟨negative, hx⟩
        simp [hx, hlarge, eq_comm]
      | _ =>
        have hsmall : ¬ Decimal.leastTooLarge ≤ n.natAbs := by
          rw [← Decimal.ofRat_eq_infinity_iff, hx]
          simp
        simp [hx, hsmall, hwithin]
    | real x => exact iff_of_false (hwithin _) (by simp)
    | _ => simp

theorem fault_notMem_extraComplaints (m : String × Data) : .fault f ∉ extraComplaints m := by
  rw [extraComplaints.eq_def]
  split
  next => split <;> split <;> simp
  next => simp

theorem readKind_eq_fault {d : Data} : readKind name d = .error (.fault f) ↔
    f = .wrongKind ∧ ((∃ xs, d = .list xs) ∨ ∃ ms, d = .object ms) := by
  cases d with
  | list xs => simp [readKind, eq_comm]
  | object ms => simp [readKind, eq_comm]
  | text s =>
    refine iff_of_false ?_ (by simp)
    rw [readKind.eq_def]
    split <;> simp_all
  | _ => simp [readKind]

theorem fault_mem_kindComplaints {names : List String} {m : String × Data} :
    .fault f ∈ kindComplaints names m ↔
      f = .wrongKind ∧ ((∃ xs, m.2 = .list xs) ∨ ∃ ms, m.2 = .object ms) := by
  have hsource : (.fault f : Failure) ∉
      if !names.contains m.1 then [.invalid (.kindWithoutSource m.1)] else [] := by
    split <;> simp
  rw [kindComplaints, List.mem_append, or_iff_left hsource, mem_causes, readKind_eq_fault]

theorem fault_notMem_orderComplaints {low high : Except Failure Nat} :
    .fault f ∉ orderComplaints low high := by
  rw [orderComplaints.eq_def]
  split
  next => split <;> simp
  next => simp

theorem fault_mem_complaints : .fault f ∈ complaints t ↔ Breaks t f := by
  simp only [complaints, rulesComplaints, metricsComplaints, commentsComplaints, lintersComplaints,
    List.mem_append, List.mem_flatMap, mem_causes, section_ne_fault, readCount_ne_fault,
    readBoolean_ne_fault, readLanguage_ne_fault, readSources_ne_fault, readRatio_eq_fault,
    fault_notMem_extraComplaints, fault_mem_kindComplaints, fault_notMem_orderComplaints,
    and_false, exists_false, false_or, or_false]
  cases f <;> simp [Breaks]

end complaints

end RuleReview.Config
