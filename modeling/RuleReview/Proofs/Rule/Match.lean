import Mathlib.Data.List.Perm.Basic
import RuleReview.Proofs.Text
import RuleReview.Rule.Match

/-! Rules look at one line at a time. What matches on a line is told by that line alone, and
the number of the line is only written beside it. So a text that is put together from two has
the matches of the first one and those of the second one so many lines further down. -/

namespace RuleReview

/-- An issue so many lines further down. -/
def Issue.shift (k : Nat) (i : Issue) : Issue := { i with line := i.line + k }

namespace Rule

/-- A match so many lines further down. -/
def Match.shift (k : Nat) (m : Match) : Match := { m with line := m.line + k }

/-! ### Lines -/

theorem codeLines_append (a b : List Char) :
    codeLines (a ++ '\n' :: b) = codeLines a ++ codeLines b := by
  rw [codeLines, Text.rows, Text.splitOn_append_sep, List.map_append]
  rfl

theorem length_codeLines (code : List Char) :
    (codeLines code).length = (Text.rows code).length := List.length_map _

/-- The text of one line has this line alone. -/
theorem codeLines_of_mem_rows {code line : List Char} (h : line ∈ Text.rows code) :
    codeLines line = [.ofList (withoutReturns line)] := by
  rw [codeLines, Text.rows, Text.splitOn_eq_singleton (Text.not_mem_of_mem_splitOn h)]
  rfl

/-! ### Matches -/

theorem lineMatches_add (p : Pattern) (n k : Nat) (t : Pattern.Line) :
    lineMatches p (n + k) t = (lineMatches p n t).map (Match.shift k) := by
  rw [lineMatches, lineMatches, List.map_map]
  rfl

theorem line_of_mem_lineMatches {p : Pattern} {n : Nat} {t : Pattern.Line} {m : Match}
    (h : m ∈ lineMatches p n t) : m.line = n := by
  obtain ⟨s, -, rfl⟩ := List.mem_map.1 h
  rfl

theorem matchesFrom_append (p : Pattern) (n : Nat) (ts us : List Pattern.Line) :
    matchesFrom p n (ts ++ us) = matchesFrom p n ts ++ matchesFrom p (n + ts.length) us := by
  induction ts generalizing n with
  | nil => rfl
  | cons t ts ih =>
    have hnext : n + (t :: ts).length = n + 1 + ts.length := by
      rw [List.length_cons]
      omega
    rw [List.cons_append, matchesFrom, matchesFrom, ih, hnext, List.append_assoc]

theorem matchesFrom_add (p : Pattern) (n k : Nat) (ts : List Pattern.Line) :
    matchesFrom p (n + k) ts = (matchesFrom p n ts).map (Match.shift k) := by
  induction ts generalizing n with
  | nil => rfl
  | cons t ts ih =>
    rw [matchesFrom, matchesFrom, List.map_append, lineMatches_add, Nat.add_right_comm n k 1, ih]

/-- A match is one on the line that it names. -/
theorem mem_matchesFrom {p : Pattern} {n : Nat} {ts : List Pattern.Line} {m : Match} :
    m ∈ matchesFrom p n ts ↔ ∃ i t, ts[i]? = some t ∧ m ∈ lineMatches p (n + i) t := by
  induction ts generalizing n with
  | nil => simp [matchesFrom]
  | cons t ts ih =>
    rw [matchesFrom, List.mem_append, ih]
    constructor
    · rintro (hm | ⟨i, u, hu, hm⟩)
      · exact ⟨0, t, rfl, hm⟩
      · exact ⟨i + 1, u, by simpa using hu, by rwa [Nat.add_right_comm] at hm⟩
    · rintro ⟨i, u, hu, hm⟩
      cases i with
      | zero =>
        obtain rfl : t = u := by simpa using hu
        exact .inl hm
      | succ i => exact .inr ⟨i, u, by simpa using hu, by rwa [Nat.add_right_comm n 1 i]⟩

/-- The matches that name a line are those on that line. -/
theorem filter_line_matchesFrom (p : Pattern) (n : Nat) {ts : List Pattern.Line} {i : Nat}
    {t : Pattern.Line} (h : ts[i]? = some t) :
    (matchesFrom p n ts).filter (·.line = n + i) = lineMatches p (n + i) t := by
  induction ts generalizing n i with
  | nil => simp at h
  | cons u ts ih =>
    rw [matchesFrom, List.filter_append]
    cases i with
    | zero =>
      obtain rfl : u = t := by simpa using h
      have hhere : (lineMatches p n u).filter (·.line = n + 0) = lineMatches p n u :=
        List.filter_eq_self.2 fun m hm => by simp [line_of_mem_lineMatches hm]
      have hlater : (matchesFrom p (n + 1) ts).filter (·.line = n + 0) = [] := by
        refine List.filter_eq_nil_iff.2 fun m hm => ?_
        obtain ⟨i, v, -, hm⟩ := mem_matchesFrom.1 hm
        have hline := line_of_mem_lineMatches hm
        simp only [decide_eq_true_eq]
        omega
      rw [hhere, hlater, List.append_nil]
      rfl
    | succ i =>
      have hhere : (lineMatches p n u).filter (·.line = n + (i + 1)) = [] := by
        refine List.filter_eq_nil_iff.2 fun m hm => ?_
        have hline := line_of_mem_lineMatches hm
        simp only [decide_eq_true_eq]
        omega
      have hnext : n + (i + 1) = n + 1 + i := by omega
      rw [hhere, List.nil_append, hnext]
      exact ih (n + 1) (by simpa using h)

/-- The matches in a text that is put together from two. -/
theorem findMatches_append (p : Pattern) (a b : List Char) :
    findMatches p (a ++ '\n' :: b) =
      findMatches p a ++ (findMatches p b).map (Match.shift (Text.rows a).length) := by
  rw [findMatches, codeLines_append, matchesFrom_append, length_codeLines, matchesFrom_add]
  rfl

/-- The matches on a line of a text are those in the line as a text of its own. -/
theorem filter_line_findMatches (p : Pattern) {code line : List Char} {n : Nat}
    (h : (Text.rows code)[n]? = some line) :
    (findMatches p code).filter (·.line = n + 1) = (findMatches p line).map (Match.shift n) := by
  have hline : (codeLines code)[n]? = some (.ofList (withoutReturns line)) := by
    rw [codeLines, List.getElem?_map, h]
    rfl
  rw [Nat.add_comm n 1, findMatches, filter_line_matchesFrom p 1 hline, findMatches,
    codeLines_of_mem_rows (List.mem_of_getElem? h), matchesFrom, matchesFrom, List.append_nil,
    lineMatches_add]

/-! ### Issues -/

namespace Collection

/-- The rules that are about a language, with their categories, in the order of their use. -/
def applied (col : Collection) (language : String) : List (Category × Rule) :=
  col.walk.flatMap fun c => (c.rules.filter fun r => r.scope.covers language).map (c, ·)

def issuesOf (col : Collection) (code : List Char) (e : Category × Rule) : List Issue :=
  (findMatches e.2.pattern code).map (issueOf col.name col.kind e.1 e.2)

theorem issues_eq (col : Collection) (language : String) (code : List Char) :
    col.issues language code = (col.applied language).flatMap (col.issuesOf code) := by
  rw [issues, applied, List.flatMap_assoc]
  refine List.flatMap_congr fun c _ => ?_
  rw [issuesOfCategory, List.flatMap_map]
  rfl

theorem issuesOf_append (col : Collection) (a b : List Char) (e : Category × Rule) :
    col.issuesOf (a ++ '\n' :: b) e =
      col.issuesOf a e ++ (col.issuesOf b e).map (Issue.shift (Text.rows a).length) := by
  rw [issuesOf, findMatches_append, List.map_append, List.map_map, issuesOf, issuesOf,
    List.map_map]
  rfl

theorem filter_line_issuesOf (col : Collection) {code line : List Char} {n : Nat}
    (h : (Text.rows code)[n]? = some line) (e : Category × Rule) :
    (col.issuesOf code e).filter (·.line = n + 1) = (col.issuesOf line e).map (Issue.shift n) := by
  rw [issuesOf, List.filter_map]
  change ((findMatches e.2.pattern code).filter (·.line = n + 1)).map _ = _
  rw [filter_line_findMatches e.2.pattern h, issuesOf, List.map_map, List.map_map]
  rfl

/-- The issues of a text that is put together from two, in some order. -/
theorem issues_append_perm (col : Collection) (language : String) (a b : List Char) :
    (col.issues language (a ++ '\n' :: b)).Perm (col.issues language a ++
      (col.issues language b).map (Issue.shift (Text.rows a).length)) := by
  have hboth : col.issuesOf (a ++ '\n' :: b) = fun e =>
      col.issuesOf a e ++ (col.issuesOf b e).map (Issue.shift (Text.rows a).length) :=
    funext (issuesOf_append col a b)
  simp only [issues_eq, List.map_flatMap, hboth]
  exact (List.flatMap_append_perm _ _ _).symm

/-- The issues on a line are those of the line as a text of its own, in their order. -/
theorem filter_line_issues (col : Collection) (language : String) {code line : List Char} {n : Nat}
    (h : (Text.rows code)[n]? = some line) :
    (col.issues language code).filter (·.line = n + 1) =
      (col.issues language line).map (Issue.shift n) := by
  simp only [issues_eq, List.filter_flatMap, List.map_flatMap, filter_line_issuesOf col h]

/-- The issues of a text are those of the matches of the rules about the language. -/
theorem mem_issues_iff {col : Collection} {language : String} {code : List Char} {i : Issue} :
    i ∈ col.issues language code ↔ ∃ c ∈ col.walk, ∃ r ∈ c.rules, r.scope.covers language ∧
      ∃ m ∈ findMatches r.pattern code, i = issueOf col.name col.kind c r m := by
  rw [issues_eq, applied]
  simp only [issuesOf, List.mem_flatMap, List.mem_map, List.mem_filter]
  constructor
  · rintro ⟨-, ⟨c, hc, r, ⟨hr, hcovers⟩, rfl⟩, m, hm, rfl⟩
    exact ⟨c, hc, r, hr, hcovers, m, hm, rfl⟩
  · rintro ⟨c, hc, r, hr, hcovers, m, hm, rfl⟩
    exact ⟨(c, r), ⟨c, hc, r, ⟨hr, hcovers⟩, rfl⟩, m, hm, rfl⟩

/-- An issue is that of a match on a line of the text. -/
theorem exists_match_of_mem_issues {col : Collection} {language : String} {code : List Char}
    {i : Issue} (h : i ∈ col.issues language code) :
    ∃ n line c r m, (Text.rows code)[n]? = some line ∧
      m ∈ lineMatches r.pattern (n + 1) (.ofList (withoutReturns line)) ∧
      i = issueOf col.name col.kind c r m := by
  obtain ⟨c, -, r, -, -, m, hm, rfl⟩ := mem_issues_iff.1 h
  obtain ⟨n, t, ht, hm⟩ := mem_matchesFrom.1 hm
  rw [codeLines, List.getElem?_map, Option.map_eq_some_iff] at ht
  obtain ⟨line, hline, rfl⟩ := ht
  exact ⟨n, line, c, r, m, hline, Nat.add_comm 1 n ▸ hm, rfl⟩

/-- There are issues on the lines of a text only. -/
theorem exists_row_of_mem_issues {col : Collection} {language : String} {code : List Char}
    {i : Issue} (h : i ∈ col.issues language code) :
    ∃ n line, i.line = n + 1 ∧ (Text.rows code)[n]? = some line := by
  obtain ⟨n, line, c, r, m, hline, hm, rfl⟩ := exists_match_of_mem_issues h
  exact ⟨n, line, line_of_mem_lineMatches hm, hline⟩

end Collection

/-- Matching is local to lines. The matches in two texts with a line feed between are those in
the first and, so many lines further down, those in the second; so are the issues, but for their
order. What is found on a line is what is found in it as a text of its own. -/
theorem issues_line_by_line :
    (∀ (p : Pattern) (a b : List Char), findMatches p (a ++ '\n' :: b) =
      findMatches p a ++ (findMatches p b).map (Match.shift (Text.rows a).length)) ∧
    (∀ (col : Collection) (language : String) (a b : List Char),
      (col.issues language (a ++ '\n' :: b)).Perm (col.issues language a ++
        (col.issues language b).map (Issue.shift (Text.rows a).length))) ∧
    ∀ (col : Collection) (language : String) (code : List Char) (n : Nat),
      (col.issues language code).filter (·.line = n + 1) =
        (Text.rows code)[n]?.toList.flatMap fun line =>
          (col.issues language line).map (Issue.shift n) := by
  refine ⟨findMatches_append, Collection.issues_append_perm, fun col language code n => ?_⟩
  cases hline : (Text.rows code)[n]? with
  | some line =>
    rw [Collection.filter_line_issues col language hline, Option.toList_some, List.flatMap_cons,
      List.flatMap_nil, List.append_nil]
  | none =>
    refine List.filter_eq_nil_iff.2 fun i hi => ?_
    obtain ⟨k, line, hk, hrow⟩ := Collection.exists_row_of_mem_issues hi
    simp only [decide_eq_true_eq, hk, Nat.add_right_cancel_iff]
    rintro rfl
    cases hline.symm.trans hrow

end Rule

end RuleReview
