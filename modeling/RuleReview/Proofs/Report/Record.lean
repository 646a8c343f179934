import RuleReview.Proofs.Data
import RuleReview.Report.Json
import RuleReview.Report.Security

/-! What can be read off the values that reports are written as. A record of any issue is one about
quality or about security with more members, and tells which of the two. Issues have one of four
severities, so the numbers of each add up to the number of issues. -/

namespace RuleReview

namespace Data

/-- The value that keys lead to, one after the other. -/
def at? : List String → Data → Option Data
  | [], d => some d
  | key :: keys, d => (d.get? key).bind (at? keys)

def natural? (keys : List String) (d : Data) : Option Nat :=
  match d.at? keys with
  | some (.integer (.ofNat n)) => some n
  | _ => none

def textAt? (keys : List String) (d : Data) : Option String := (d.at? keys).bind text?

end Data

/-! ### Severities -/

namespace Issue

/-- The number of issues of any severity. -/
def Breakdown.sum (b : Breakdown) : Nat := b.critical + b.high + b.medium + b.low

theorem sum_breakdown (is : List Issue) : (breakdown is).sum = is.length := by
  induction is with
  | nil => rfl
  | cons i is ih =>
    simp only [breakdown, Breakdown.sum, countOf] at ih
    cases hs : i.severity <;>
      · simp only [breakdown, Breakdown.sum, countOf, List.countP_cons, hs, List.length_cons,
          beq_self_eq_true, reduceCtorEq, beq_iff_eq, if_true, if_false]
        omega

end Issue

namespace Report

open Data (at? natural? textAt? lookup_append lookup_eq_none)

/-- The numbers of issues of each severity in the object that keys lead to. -/
def breakdown? (keys : List String) (d : Data) : Option Issue.Breakdown := do
  let critical ← natural? (keys ++ ["critical"]) d
  let high ← natural? (keys ++ ["high"]) d
  let medium ← natural? (keys ++ ["medium"]) d
  let low ← natural? (keys ++ ["low"]) d
  return { critical, high, medium, low }

/-! ### Records -/

def qualityKeys : List String := ["line", "message", "severity", "category", "fix", "confidence"]

def securityKeys : List String :=
  ["category", "line", "message", "severity", "description", "fix", "confidence", "cweMapping"]

/-- The members that a record has in a list of issues of one kind. -/
def plainRecord (i : Issue) : Members :=
  if i.kind == .security then securityRecord i else qualityRecord i

/-- The members that a record has in the list of all issues only. -/
def provenance (i : Issue) : Members :=
  [("column", count i.column), ("type", .text i.kind.name), ("source", .text i.source),
    ("impact", .text i.impact.name)]

theorem issueRecord_eq (i : Issue) : issueRecord i = plainRecord i ++ provenance i := rfl

/-- A record without the members that records of its type do not have. -/
def cutDown (d : Data) : Data :=
  let keys := if textAt? ["type"] d = some "security" then securityKeys else qualityKeys
  .object ((d.members?.getD []).filter fun m => m.1 ∈ keys)

theorem mem_fixMember {i : Issue} {m : String × Data} (h : m ∈ fixMember i) : m.1 = "fix" := by
  rw [fixMember] at h
  split at h
  next => rw [List.mem_singleton.1 h]
  next => cases h

theorem key_mem_qualityKeys {i : Issue} {m : String × Data} (h : m ∈ qualityRecord i) :
    m.1 ∈ qualityKeys := by
  simp only [qualityRecord, List.mem_append, List.mem_cons, List.not_mem_nil, or_false] at h
  rcases h with ((rfl | rfl | rfl | rfl) | h) | rfl
  case inl.inr => rw [mem_fixMember h]; decide
  all_goals simp [qualityKeys]

theorem key_mem_securityKeys {i : Issue} {m : String × Data} (h : m ∈ securityRecord i) :
    m.1 ∈ securityKeys := by
  simp only [securityRecord, List.mem_append, List.mem_cons, List.not_mem_nil, or_false,
    List.mem_ite_nil_left] at h
  rcases h with (((rfl | rfl | rfl | rfl | rfl) | h) | rfl) | ⟨-, rfl⟩
  case inl.inl.inr => rw [mem_fixMember h]; decide
  all_goals simp [securityKeys]

/-- Records about quality have no keys that those about security do not have. -/
theorem qualityKeys_subset : qualityKeys ⊆ securityKeys := by
  decide

theorem key_mem_plainRecord {i : Issue} {m : String × Data} (h : m ∈ plainRecord i) :
    m.1 ∈ securityKeys := by
  rw [plainRecord] at h
  split at h
  next => exact key_mem_securityKeys h
  next => exact qualityKeys_subset (key_mem_qualityKeys h)

theorem textAt?_type (i : Issue) :
    textAt? ["type"] (.object (issueRecord i)) = some i.kind.name := by
  have hplain : Data.lookup "type" (plainRecord i) = none := by
    refine lookup_eq_none fun m hm hkey => ?_
    have hmem := key_mem_plainRecord hm
    rw [hkey] at hmem
    exact absurd hmem (by decide)
  have hlookup : Data.lookup "type" (issueRecord i) = some (.text i.kind.name) := by
    rw [issueRecord_eq, lookup_append, hplain]
    rfl
  rw [textAt?, at?, Data.get?, Data.members?, Option.bind_some, hlookup]
  rfl

theorem filter_issueRecord {keys : List String} {i : Issue}
    (hplain : ∀ m ∈ plainRecord i, m.1 ∈ keys) (hmore : ∀ m ∈ provenance i, m.1 ∉ keys) :
    (issueRecord i).filter (fun m => m.1 ∈ keys) = plainRecord i := by
  have hkeep : (plainRecord i).filter (fun m => m.1 ∈ keys) = plainRecord i :=
    List.filter_eq_self.2 fun m hm => decide_eq_true (hplain m hm)
  have hdrop : (provenance i).filter (fun m => m.1 ∈ keys) = [] :=
    List.filter_eq_nil_iff.2 fun m hm => by simpa using hmore m hm
  rw [issueRecord_eq, List.filter_append, hkeep, hdrop, List.append_nil]

/-- The record of an issue of any kind, cut down, is the one in the list of its kind. -/
theorem cutDown_issueRecord (i : Issue) :
    cutDown (.object (issueRecord i)) = .object (plainRecord i) := by
  have hsecurity : ∀ m ∈ provenance i, m.1 ∉ securityKeys := by
    simp [provenance, securityKeys]
  have hquality : ∀ m ∈ provenance i, m.1 ∉ qualityKeys := fun m hm hkey =>
    hsecurity m hm (qualityKeys_subset hkey)
  rw [cutDown, textAt?_type]
  refine congrArg Data.object ?_
  split
  next => exact filter_issueRecord (fun m => key_mem_plainRecord) hsecurity
  next hname =>
    refine filter_issueRecord (fun m hm => ?_) hquality
    have hkind : i.kind ≠ .security := by
      rintro hkind
      exact hname (by rw [hkind]; rfl)
    rw [plainRecord, if_neg (by simpa using hkind)] at hm
    exact key_mem_qualityKeys hm

def told (d : Data) : Option Nat × Option String := (natural? ["line"] d, textAt? ["message"] d)

theorem told_qualityRecord (i : Issue) :
    told (.object (qualityRecord i)) = (some i.line, some i.message) := rfl

theorem told_securityRecord (i : Issue) :
    told (.object (securityRecord i)) = (some i.line, some i.message) := rfl

end Report

end RuleReview
