import Mathlib.Data.List.Lex
import Mathlib.Data.List.Nodup
import Mathlib.Data.String.Basic
import RuleReview.Linter
import RuleReview.Workspace
import RuleReview.Proofs.Text

/-! Paths, and what is at them. A text leads from directory to directory, one component after
the other; all texts that lead to one file in a directory give it one name. A file is not read
where there is none at its path or the path cannot be followed. The sources below a directory are
told by the files that it holds. -/

namespace RuleReview

namespace Path

/-! ### Texts of paths -/

def HasNul (p : Path) : Prop := ∃ part ∈ p.parts, '\x00' ∈ part.toList

instance (p : Path) : Decidable p.HasNul :=
  inferInstanceAs (Decidable (∃ part ∈ p.parts, '\x00' ∈ part.toList))

/-- A component that a path keeps. -/
structure IsComponent (part : String) : Prop where
  ne_empty : part ≠ ""
  ne_point : part ≠ "."
  noSlash : '/' ∉ part.toList

/-- A text of a path that starts at the root. -/
def IsRooted (s : String) : Prop := s.toList.head? = some '/'

instance (s : String) : Decidable (IsRooted s) :=
  inferInstanceAs (Decidable (s.toList.head? = some '/'))

variable {s : String} {part : String} {parts : List String}

theorem rootOf_eq_empty (cs : List Char) : rootOf cs = "" ↔ cs.head? ≠ some '/' := by
  cases cs with
  | nil => decide
  | cons c cs =>
    rw [rootOf]
    by_cases hc : c = '/'
    · subst hc
      rw [List.takeWhile_cons_of_pos (by decide)]
      simp only [List.head?_cons, ne_eq, not_true_eq_false, iff_false]
      split <;> simp_all
    · rw [List.takeWhile_cons_of_neg (by simpa using hc)]
      simp [hc]

theorem isAbsolute_ofString : (ofString s).isAbsolute = true ↔ IsRooted s := by
  simp [isAbsolute, ofString, rootOf_eq_empty, IsRooted]

theorem isComponent_of_mem (h : part ∈ (ofString s).parts) : IsComponent part := by
  obtain ⟨hpart, hkept⟩ := List.mem_filter.1 h
  simp only [Bool.and_eq_true, bne_iff_ne] at hkept
  exact ⟨hkept.1, hkept.2, Text.not_mem_of_mem_splitOn (Text.mem_split.1 hpart)⟩

theorem toList_intercalate_cons (part : String) (h : parts ≠ []) :
    ("/".intercalate (part :: parts)).toList =
      part.toList ++ '/' :: ("/".intercalate parts).toList := by
  rw [String.intercalate_cons_of_ne_nil h]
  simp

/-- Components with slashes between them are found again. -/
theorem split_intercalate (h : ∀ part ∈ parts, IsComponent part) (hne : parts ≠ []) :
    Text.split '/' ("/".intercalate parts) = parts := by
  induction parts with
  | nil => exact absurd rfl hne
  | cons part parts ih =>
    obtain ⟨hpart, hparts⟩ := List.forall_mem_cons.1 h
    by_cases hone : parts = []
    · rw [hone, String.intercalate_singleton, Text.split, Text.splitOn_eq_singleton hpart.noSlash,
        List.map_singleton, String.ofList_toList]
    · rw [Text.split, toList_intercalate_cons part hone, Text.splitOn_append hpart.noSlash,
        List.map_cons, String.ofList_toList, ← Text.split, ih hparts hone]

theorem parts_intercalate (h : ∀ part ∈ parts, IsComponent part) :
    (ofString ("/".intercalate parts)).parts = parts := by
  by_cases hne : parts = []
  · rw [hne]
    decide
  · rw [ofString, split_intercalate h hne, List.filter_eq_self]
    intro part hpart
    simp [(h part hpart).ne_empty, (h part hpart).ne_point]

theorem head?_intercalate (h : ∀ part ∈ parts, IsComponent part) :
    ("/".intercalate parts).toList.head? ≠ some '/' := by
  cases parts with
  | nil => decide
  | cons part parts =>
    obtain ⟨hpart, -⟩ := List.forall_mem_cons.1 h
    have hne : part.toList ≠ [] := by simpa using hpart.ne_empty
    obtain ⟨c, cs, hcs⟩ := List.exists_cons_of_ne_nil hne
    have hstart : ("/".intercalate (part :: parts)).toList.head? = some c := by
      by_cases hparts : parts = []
      · rw [hparts, String.intercalate_singleton, hcs]
        rfl
      · rw [toList_intercalate_cons part hparts, hcs]
        rfl
    rw [hstart]
    rintro ⟨⟩
    exact hpart.noSlash (hcs ▸ List.mem_cons_self)

/-- A path as texts name them. -/
structure IsRegular (p : Path) : Prop where
  root : p.root = "" ∨ p.root = "/" ∨ p.root = "//"
  parts : ∀ part ∈ p.parts, IsComponent part

theorem isRegular_ofString (s : String) : (ofString s).IsRegular := by
  refine ⟨?_, fun part => isComponent_of_mem⟩
  simp only [ofString, rootOf]
  split <;> decide

theorem ofString_slash_append (t : String) :
    (ofString ("/" ++ t)).parts = (ofString t).parts := by
  have hsplit : Text.split '/' ("/" ++ t) = "" :: Text.split '/' t := by
    rw [Text.split, String.toList_append]
    exact congrArg (List.map String.ofList) (Text.splitOn_append List.not_mem_nil t.toList)
  rw [ofString, hsplit]
  rfl

theorem rootOf_append {root : String} {cs : List Char}
    (hroot : root = "" ∨ root = "/" ∨ root = "//") (hcs : cs.head? ≠ some '/') :
    rootOf (root.toList ++ cs) = root := by
  have hnone : cs.takeWhile (· == '/') = [] := by
    cases cs with
    | nil => rfl
    | cons c cs => exact List.takeWhile_cons_of_neg (by simpa using hcs)
  rw [rootOf]
  rcases hroot with rfl | rfl | rfl <;> simp [hnone]

/-- A path is read back from its text. -/
theorem IsRegular.ofString_toString {p : Path} (h : p.IsRegular) : ofString p.toString = p := by
  obtain ⟨root, parts⟩ := p
  rw [toString]
  split
  next hempty =>
    simp only [Bool.and_eq_true, beq_iff_eq, List.isEmpty_iff] at hempty
    obtain ⟨rfl, rfl⟩ := hempty
    decide
  next =>
    have hroot : (ofString (root ++ "/".intercalate parts)).root = root := by
      rw [ofString, String.toList_append]
      exact rootOf_append h.root (head?_intercalate h.parts)
    have hparts : (ofString (root ++ "/".intercalate parts)).parts = parts := by
      have hread := parts_intercalate h.parts
      rcases h.root with hroot | hroot | hroot <;> obtain rfl : root = _ := hroot
      · rw [String.empty_append, hread]
      · rw [ofString_slash_append, hread]
      · rw [show "//" = "/" ++ "/" from rfl, String.append_assoc, ofString_slash_append,
          ofString_slash_append, hread]
    exact congr (congrArg Path.mk hroot) hparts

/-! ### Places

A place is the components that lead to it from the root of the file system. -/

/-- The place that a component leads to. Nothing is above the root. -/
def stepTo (place : List String) (part : String) : List String :=
  if part = "" ∨ part = "." then place
  else if part = ".." then place.dropLast
  else place ++ [part]

/-- The place that is reached from another one along a text. -/
def follow (place : List String) (s : String) : List String :=
  (Text.split '/' s).foldl stepTo place

/-- The place of a text for a program that runs in a directory. -/
def placeOf (here : List String) (s : String) : List String :=
  follow (if IsRooted s then [] else here) s

structure IsName (part : String) : Prop extends IsComponent part where
  ne_points : part ≠ ".."
  noNul : '\x00' ∉ part.toList

variable {place home : List String}

theorem IsComponent.stepTo (h : IsComponent part) (hpoints : part ≠ "..") :
    stepTo place part = place ++ [part] := by
  rw [Path.stepTo, if_neg (not_or.2 ⟨h.ne_empty, h.ne_point⟩), if_neg hpoints]

theorem foldl_stepTo_of_isName (h : ∀ part ∈ parts, IsName part) :
    parts.foldl stepTo place = place ++ parts := by
  induction parts generalizing place with
  | nil => exact (List.append_nil place).symm
  | cons part parts ih =>
    obtain ⟨hpart, hparts⟩ := List.forall_mem_cons.1 h
    rw [List.foldl_cons, hpart.toIsComponent.stepTo hpart.ne_points, ih hparts, List.append_assoc,
      List.singleton_append]

theorem mem_foldl_stepTo (h : part ∈ parts.foldl stepTo place) :
    part ∈ place ∨ part ∈ parts ∧ part ≠ "" ∧ part ≠ "." ∧ part ≠ ".." := by
  induction parts generalizing place with
  | nil => exact .inl h
  | cons first parts ih =>
    rcases ih h with hplace | ⟨hmem, hname⟩
    · rw [stepTo] at hplace
      split at hplace
      next => exact .inl hplace
      next hstay =>
        split at hplace
        next => exact .inl (List.dropLast_subset place hplace)
        next hup =>
          rcases List.mem_append.1 hplace with hplace | hlast
          · exact .inl hplace
          · obtain rfl := List.mem_singleton.1 hlast
            exact .inr ⟨List.mem_cons_self, (not_or.1 hstay).1, (not_or.1 hstay).2, hup⟩
    · exact .inr ⟨List.mem_cons_of_mem first hmem, hname⟩

theorem foldl_stepTo_filter (place parts : List String) :
    (parts.filter fun p => p != "" && p != ".").foldl stepTo place = parts.foldl stepTo place := by
  induction parts generalizing place with
  | nil => rfl
  | cons part parts ih =>
    rw [List.filter_cons, List.foldl_cons, ← ih]
    by_cases hstay : part = "" ∨ part = "."
    · rw [stepTo, if_pos hstay]
      rcases hstay with rfl | rfl <;> rfl
    · rw [not_or] at hstay
      rw [if_pos (by simp [hstay]), List.foldl_cons]

theorem climb_eq_foldl {before : List String} (h : ∀ part ∈ parts, IsComponent part) :
    climb before parts = parts.foldl stepTo before.reverse := by
  fun_induction climb before parts with
  | case1 before => rfl
  | case2 before rest ih =>
    rw [ih (List.forall_mem_cons.1 h).2, List.foldl_cons, stepTo, if_neg (by decide), if_pos rfl,
      List.drop_one, List.dropLast_reverse]
  | case3 before part rest hne ih =>
    obtain ⟨hpart, hrest⟩ := List.forall_mem_cons.1 h
    rw [ih hrest, List.foldl_cons, hpart.stepTo hne, List.reverse_cons]

theorem IsRegular.resolve {p : Path} (h : p.IsRegular) :
    p.resolve = ⟨"/", p.parts.foldl stepTo []⟩ := by
  rw [Path.resolve, climb_eq_foldl h.parts, List.reverse_nil]

theorem follow_eq (place : List String) (s : String) :
    follow place s = (ofString s).parts.foldl stepTo place := (foldl_stepTo_filter place _).symm

theorem resolve_join (root s : String) :
    ((ofString root).join (ofString s)).resolve = ⟨"/", placeOf (follow [] root) s⟩ := by
  rw [join, placeOf]
  by_cases hs : IsRooted s
  · rw [if_pos (isAbsolute_ofString.2 hs), if_pos hs, (isRegular_ofString s).resolve, follow_eq]
  · have hboth : ∀ part ∈ (ofString root).parts ++ (ofString s).parts, IsComponent part :=
      List.forall_mem_append.2 ⟨fun _ => isComponent_of_mem, fun _ => isComponent_of_mem⟩
    rw [if_neg ((not_congr isAbsolute_ofString).2 hs), if_neg hs, Path.resolve,
      climb_eq_foldl hboth, List.reverse_nil, List.foldl_append, follow_eq, follow_eq]

/-! ### Names -/

/-- A text that names what lies in a directory or is the directory itself. -/
def LiesIn (home : List String) (s : String) : Prop := home <+: placeOf home s

instance (home : List String) (s : String) : Decidable (LiesIn home s) :=
  inferInstanceAs (Decidable (home <+: placeOf home s))

/-- A relative text without any detour to a place; the directory itself is a point. -/
structure IsDirect (home place : List String) (name : String) : Prop where
  relative : ¬ IsRooted name
  point : place = home → name = "."
  parts : place ≠ home → ∀ part ∈ Text.split '/' name, IsName part

/-- What a text is called: directly what lies in the directory, all else by its path. -/
structure IsNameOf (home : List String) (s name : String) : Prop where
  leads : placeOf home name = placeOf home s
  inside : LiesIn home s → IsDirect home (placeOf home s) name
  outside : ¬ LiesIn home s → name = (ofString s).toString

theorem isName_of_mem_follow (hplace : ∀ part ∈ place, IsName part) (hs : '\x00' ∉ s.toList)
    (h : part ∈ follow place s) : IsName part := by
  rcases mem_foldl_stepTo h with h | ⟨h, hempty, hpoint, hpoints⟩
  · exact hplace part h
  · have hpart := Text.mem_split.1 h
    exact ⟨⟨hempty, hpoint, Text.not_mem_of_mem_splitOn hpart⟩, hpoints,
      fun hnul => hs ((Text.infix_of_mem_splitOn hpart).subset hnul)⟩

theorem isName_of_mem_placeOf (hhome : ∀ part ∈ home, IsName part) (hs : '\x00' ∉ s.toList) :
    ∀ part ∈ placeOf home s, IsName part := by
  intro part
  rw [placeOf]
  split
  next => exact isName_of_mem_follow (fun _ h => absurd h List.not_mem_nil) hs
  next => exact isName_of_mem_follow hhome hs

theorem mem_intercalate {c : Char} (h : c ∈ ("/".intercalate parts).toList) :
    c = '/' ∨ ∃ part ∈ parts, c ∈ part.toList := by
  induction parts with
  | nil => exact absurd h List.not_mem_nil
  | cons part parts ih =>
    by_cases hone : parts = []
    · rw [hone, String.intercalate_singleton] at h
      exact .inr ⟨part, List.mem_cons_self, h⟩
    · rw [toList_intercalate_cons part hone] at h
      rcases List.mem_append.1 h with h | h
      · exact .inr ⟨part, List.mem_cons_self, h⟩
      · rcases List.mem_cons.1 h with rfl | h
        · exact .inl rfl
        · obtain hslash | ⟨other, hother, hc⟩ := ih h
          · exact .inl hslash
          · exact .inr ⟨other, List.mem_cons_of_mem part hother, hc⟩

theorem IsRegular.noNul_toString {p : Path} (h : p.IsRegular) (hnul : ¬ p.HasNul) :
    '\x00' ∉ p.toString.toList := by
  rw [toString]
  split
  next => decide
  next =>
    rw [String.toList_append, List.mem_append, not_or]
    refine ⟨?_, fun hmem => ?_⟩
    · rcases h.root with hroot | hroot | hroot <;> rw [hroot] <;> decide
    · obtain hslash | hpart := mem_intercalate hmem
      · exact absurd hslash (by decide)
      · exact hnul hpart

/-- Components that lead on from a directory make up the direct name of what they lead to. -/
theorem isDirect_toString (home : List String) (h : ∀ part ∈ parts, IsName part) :
    IsDirect home (home ++ parts) (Path.mk "" parts).toString ∧
      placeOf home (Path.mk "" parts).toString = home ++ parts := by
  have hread : ofString (Path.mk "" parts).toString = ⟨"", parts⟩ :=
    IsRegular.ofString_toString ⟨.inl rfl, fun part hpart => (h part hpart).toIsComponent⟩
  have hrelative : ¬ IsRooted (Path.mk "" parts).toString := by
    rw [← isAbsolute_ofString, hread]
    exact Bool.false_ne_true
  refine ⟨⟨hrelative, fun hhome => ?_, fun hbelow => ?_⟩, ?_⟩
  · obtain rfl := List.append_right_eq_self.1 hhome
    rfl
  · have hne : parts ≠ [] := fun hnil => hbelow (by rw [hnil, List.append_nil])
    have htext : (Path.mk "" parts).toString = "/".intercalate parts := by
      rw [toString, if_neg (by simpa using hne), String.empty_append]
    rw [htext, split_intercalate (fun part hpart => (h part hpart).toIsComponent) hne]
    exact h
  · rw [placeOf, if_neg hrelative, follow_eq, hread]
    exact foldl_stepTo_of_isName h

/-- A text that is read as the same path leads to the same place. -/
theorem placeOf_congr {t : String} (h : ofString s = ofString t) :
    placeOf home s = placeOf home t := by
  have hrooted : IsRooted s ↔ IsRooted t := by
    rw [← isAbsolute_ofString, ← isAbsolute_ofString, h]
  rw [placeOf, placeOf, follow_eq, follow_eq, h]
  simp only [hrooted]

theorem relativeTo_of_liesIn {root : String} (h : LiesIn (follow [] root) s) :
    (ofString root).relativeTo (ofString s) =
      (Path.mk "" ((placeOf (follow [] root) s).drop (follow [] root).length)).toString := by
  rw [relativeTo, resolve_join, (isRegular_ofString root).resolve, ← follow_eq, below?,
    if_pos (by simpa [LiesIn] using h)]

theorem relativeTo_of_not_liesIn {root : String} (h : ¬ LiesIn (follow [] root) s) :
    (ofString root).relativeTo (ofString s) = (ofString s).toString := by
  rw [relativeTo, resolve_join, (isRegular_ofString root).resolve, ← follow_eq, below?,
    if_neg (by simpa [LiesIn] using h)]

/-- What a path is called from a directory on, and that it is called so by that name too. -/
theorem isNameOf_relativeTo {root : String} (hroot : '\x00' ∉ root.toList)
    (hs : '\x00' ∉ s.toList) :
    IsNameOf (follow [] root) s ((ofString root).relativeTo (ofString s)) ∧
      '\x00' ∉ ((ofString root).relativeTo (ofString s)).toList ∧
      (ofString root).relativeTo (ofString ((ofString root).relativeTo (ofString s))) =
        (ofString root).relativeTo (ofString s) := by
  have hhome : ∀ part ∈ follow [] root, IsName part :=
    fun _ => isName_of_mem_follow (fun _ h => absurd h List.not_mem_nil) hroot
  by_cases hin : LiesIn (follow [] root) s
  · obtain ⟨parts, hparts⟩ := id hin
    have hnames : ∀ part ∈ parts, IsName part := fun part hpart =>
      isName_of_mem_placeOf hhome hs part (hparts ▸ List.mem_append_right _ hpart)
    obtain ⟨hdirect, hleads⟩ := isDirect_toString (follow [] root) hnames
    have hname : (ofString root).relativeTo (ofString s) = (Path.mk "" parts).toString := by
      rw [relativeTo_of_liesIn hin, ← hparts, List.drop_left]
    rw [hparts] at hdirect hleads
    rw [hname]
    refine ⟨⟨hleads, fun _ => hdirect, fun hout => absurd hin hout⟩, ?_, ?_⟩
    · exact IsRegular.noNul_toString ⟨.inl rfl, fun part hpart => (hnames part hpart).toIsComponent⟩
        fun ⟨part, hpart, hmem⟩ => (hnames part hpart).noNul hmem
    · have hin' : LiesIn (follow [] root) (Path.mk "" parts).toString := by rwa [LiesIn, hleads]
      rw [relativeTo_of_liesIn hin', hleads, ← hparts, List.drop_left]
  · have hregular := isRegular_ofString s
    have hread := hregular.ofString_toString
    rw [relativeTo_of_not_liesIn hin, hread, relativeTo_of_not_liesIn hin]
    refine ⟨⟨placeOf_congr hread, fun hin' => absurd hin' hin, fun _ => rfl⟩, ?_, rfl⟩
    exact hregular.noNul_toString fun ⟨part, hpart, hmem⟩ =>
      hs ((Text.infix_of_mem_splitOn (Text.mem_split.1 (List.mem_filter.1 hpart).1)).subset hmem)

end Path

namespace Linter

open RuleReview.Path (IsRooted LiesIn IsNameOf placeOf)

variable {root file : String}

theorem fileName_eq (h : '\x00' ∉ file.toList) :
    fileName (Path.ofString root) file =
      .ok ((Path.ofString root).relativeTo (Path.ofString file)) := by
  rw [fileName, if_neg (by simpa using h)]

/-- However a file is named, it has one name, which is its own name too. Files in the directory
have the same name exactly when they are at the same place. -/
theorem fileName_oneName (hroot : IsRooted root) (hnul : '\x00' ∉ root.toList)
    (here : List String) :
    (∀ file, '\x00' ∉ file.toList → ∃ name,
      fileName (Path.ofString root) file = .ok name ∧
      fileName (Path.ofString root) name = .ok name ∧
      IsNameOf (placeOf here root) file name) ∧
    ∀ file other, '\x00' ∉ file.toList → '\x00' ∉ other.toList →
      LiesIn (placeOf here root) file → LiesIn (placeOf here root) other →
      (fileName (Path.ofString root) file = fileName (Path.ofString root) other ↔
        placeOf (placeOf here root) file = placeOf (placeOf here root) other) := by
  have hhome : placeOf here root = Path.follow [] root := by rw [placeOf, if_pos hroot]
  rw [hhome]
  refine ⟨fun file hfile => ?_, fun file other hfile hother hin hin' => ?_⟩
  · obtain ⟨hname, hfree, hagain⟩ := Path.isNameOf_relativeTo hnul hfile
    exact ⟨_, fileName_eq hfile, (fileName_eq hfree).trans (congrArg _ hagain), hname⟩
  · rw [fileName_eq hfile, fileName_eq hother, Except.ok.injEq]
    constructor
    · intro hsame
      rw [← (Path.isNameOf_relativeTo hnul hfile).1.leads, hsame,
        (Path.isNameOf_relativeTo hnul hother).1.leads]
    · intro hsame
      rw [Path.relativeTo_of_liesIn hin, Path.relativeTo_of_liesIn hin', hsame]

theorem fileName_oneName_project :
    IsRooted "/w/../ws/proj" ∧
    placeOf ["here"] "/w/../ws/proj" = ["ws", "proj"] ∧
    LiesIn ["ws", "proj"] "src//./a.py" ∧ LiesIn ["ws", "proj"] "../../ws/proj/lib/../src/a.py" ∧
    (fileName (Path.ofString "/w/../ws/proj") "src//./a.py" =
      fileName (Path.ofString "/w/../ws/proj") "../../ws/proj/lib/../src/a.py" ∧
    ∃ name, fileName (Path.ofString "/w/../ws/proj") "../other//a.py" = .ok name ∧
      fileName (Path.ofString "/w/../ws/proj") name = .ok name ∧
      IsNameOf ["ws", "proj"] "../other//a.py" name ∧ name = "../other/a.py") := by
  have hroot : IsRooted "/w/../ws/proj" := by decide
  have hhome : placeOf ["here"] "/w/../ws/proj" = ["ws", "proj"] := by decide
  have hin : LiesIn ["ws", "proj"] "src//./a.py" := by decide
  have hin' : LiesIn ["ws", "proj"] "../../ws/proj/lib/../src/a.py" := by decide
  obtain ⟨hnames, hsame⟩ := fileName_oneName hroot (by decide) ["here"]
  rw [hhome] at hnames hsame
  obtain ⟨name, hname, hagain, hof⟩ := hnames "../other//a.py" (by decide)
  refine ⟨hroot, hhome, hin, hin', (hsame _ _ (by decide) (by decide) hin hin').2 (by decide),
    name, hname, hagain, hof, ?_⟩
  rw [hof.outside (by decide)]
  decide

end Linter

/-! ### What is at a path -/

theorem Tree.walk_eq_error {before : List Tree} {t : Tree} {parts : List String} {f : Fault}
    (h : walk before t parts = .error f) :
    f = .notDirectory ∨ f = .fileMissing ∨ f = .nameTooLong := by
  induction parts generalizing before t with
  | nil => cases t <;> simp [Tree.walk] at h
  | cons part rest ih =>
    cases t with
    | file content => simp_all [Tree.walk]
    | directory entries =>
      simp only [Tree.walk] at h
      split at h
      next =>
        cases before with
        | nil => simp_all
        | cons parent before => exact ih h
      next =>
        split at h
        next => simp_all
        next =>
          split at h
          next => exact ih h
          next => simp_all

namespace Workspace

variable {w : Workspace} {path : Path} {f : Fault}

theorem find_eq_nul : w.find path = .error .nulInPath ↔ path.HasNul := by
  have hany : (path.parts.any fun part => part.toList.contains '\x00') = true ↔ path.HasNul := by
    simp [Path.HasNul]
  rw [find]
  split
  next hnul => exact iff_of_true rfl (hany.1 hnul)
  next hnul =>
    refine iff_of_false (fun h => ?_) fun h => hnul (hany.2 h)
    split at h
    next => cases h
    next => split at h <;> rcases Tree.walk_eq_error h with h | h | h <;> cases h

theorem find_eq_error (h : w.find path = .error f) :
    f = .notDirectory ∨ f = .fileMissing ∨ f = .nameTooLong ∨ f = .nulInPath := by
  rw [find] at h
  split at h
  next =>
    cases h
    exact .inr (.inr (.inr rfl))
  next =>
    split at h
    next =>
      cases h
      exact .inr (.inr (.inl rfl))
    next => split at h <;> rcases Tree.walk_eq_error h with rfl | rfl | rfl <;> simp

theorem readBytes_eq_error (h : w.readBytes path = .error f) :
    f = .isDirectory ∨ f = .notDirectory ∨ f = .fileMissing ∨ f = .nameTooLong ∨
      f = .nulInPath := by
  rw [readBytes] at h
  split at h
  next => cases h
  next =>
    cases h
    exact .inl rfl
  next hfind =>
    cases h
    exact .inr (find_eq_error hfind)

theorem readLossy_eq_nul : w.readLossy path = .error .nulInPath ↔ path.HasNul := by
  rw [← find_eq_nul (w := w), readLossy, readBytes]
  cases w.find path with
  | error f => simp [Except.map]
  | ok t => cases t <;> simp [Except.map]

theorem readLossy_eq_error (h : w.readLossy path = .error f) :
    f = .isDirectory ∨ f = .notDirectory ∨ f = .fileMissing ∨ f = .nameTooLong ∨
      f = .nulInPath := by
  rw [readLossy] at h
  cases hbytes : w.readBytes path with
  | error f' =>
    rw [hbytes] at h
    cases h
    exact readBytes_eq_error hbytes
  | ok content =>
    rw [hbytes] at h
    cases h

end Workspace

/-! ### What a directory holds -/

namespace Tree

/-- Components at whose end a tree has a file. -/
inductive Holds : Tree → List String → Prop
  | file {content : ByteArray} : Holds (.file content) []
  | entry {entries : List (String × Tree)} {name : String} {t : Tree} {parts : List String} :
    (name, t) ∈ entries → Holds t parts → Holds (.directory entries) (name :: parts)

/-- A tree whose directories, at any depth, have one entry of each name. -/
inductive IsKeyed : Tree → Prop
  | file {content : ByteArray} : IsKeyed (.file content)
  | directory {entries : List (String × Tree)} : (entries.map Prod.fst).Nodup →
    (∀ e ∈ entries, IsKeyed e.2) → IsKeyed (.directory entries)

variable {t t' : Tree} {parts : List String}

theorem filesOf_eq_flatMap (entries : List (String × Tree)) :
    filesOf entries = entries.flatMap fun e => e.2.files.map (e.1 :: ·) := by
  induction entries with
  | nil => rfl
  | cons e entries ih =>
    obtain ⟨name, t⟩ := e
    rw [filesOf, ih, List.flatMap_cons]

theorem files_directory (entries : List (String × Tree)) :
    (directory entries).files = entries.flatMap fun e => e.2.files.map (e.1 :: ·) := by
  rw [files, filesOf_eq_flatMap]

theorem files_file (content : ByteArray) : (file content).files = [[]] := rfl

theorem mem_files : parts ∈ t.files ↔ t.Holds parts := by
  induction parts generalizing t with
  | nil =>
    cases t with
    | file => exact iff_of_true (List.mem_singleton.2 rfl) .file
    | directory entries =>
      rw [files_directory]
      exact iff_of_false (by simp) nofun
  | cons name parts ih =>
    cases t with
    | file => exact iff_of_false (by simp [files_file]) nofun
    | directory entries =>
      rw [files_directory, List.mem_flatMap]
      constructor
      · rintro ⟨⟨name', t⟩, he, hparts⟩
        obtain ⟨parts', hparts', heq⟩ := List.mem_map.1 hparts
        cases heq
        exact .entry he (ih.1 hparts')
      · rintro (_ | ⟨he, hparts⟩)
        exact ⟨_, he, List.mem_map_of_mem (ih.2 hparts)⟩

theorem Holds.ne_nil {entries : List (String × Tree)} (h : (directory entries).Holds parts) :
    parts ≠ [] := by
  cases h
  exact List.cons_ne_nil _ _

/-- The order of entries is of no account. -/
theorem holds_congr {entries entries' : List (String × Tree)} (h : ∀ e, e ∈ entries' ↔ e ∈ entries)
    (parts : List String) : (directory entries').Holds parts ↔ (directory entries).Holds parts := by
  constructor
  · rintro (_ | ⟨he, hparts⟩)
    exact .entry ((h _).1 he) hparts
  · rintro (_ | ⟨he, hparts⟩)
    exact .entry ((h _).2 he) hparts

theorem IsKeyed.nodup_files (h : t.IsKeyed) : t.files.Nodup := by
  induction h with
  | file => exact List.nodup_singleton _
  | @directory entries hnames hbelow ih =>
    rw [files_directory, List.nodup_flatMap]
    refine ⟨fun e he => (ih e he).map List.cons_injective, (List.pairwise_map.1 hnames).imp ?_⟩
    intro e e' hne parts hparts hparts'
    obtain ⟨_, -, rfl⟩ := List.mem_map.1 hparts
    obtain ⟨_, -, heq⟩ := List.mem_map.1 hparts'
    exact hne (List.cons.inj heq).1.symm

end Tree

/-! ### Sources below a directory -/

namespace Workspace

variable {extensions : List String} {t t' : Tree} {parts : List String} {w : Workspace}
  {root : Path} {entries : List (String × Tree)}

theorem orderedParts_iff {p q : List String} : orderedParts p q = true ↔ ¬ q < p := by
  rw [orderedParts, Bool.not_eq_true', ← Bool.not_eq_true, List.lex_eq_true_iff_lt]

theorem isPassedOver_eq_false {name : String} :
    isPassedOver name = false ↔ name.toList.head? ≠ some '.' ∧ name ∉ vendored := by
  simp [isPassedOver]

theorem mem_sourcesOf : parts ∈ sourcesOf extensions t ↔ t.Holds parts ∧
    Text.toLower (Path.suffixOf (parts.getLast?.getD "")) ∈ extensions ∧
    ∀ d ∈ parts.dropLast, d.toList.head? ≠ some '.' ∧ d ∉ vendored := by
  simp only [← isPassedOver_eq_false]
  simp [sourcesOf, List.mem_mergeSort, Tree.mem_files, and_comm]

theorem pairwise_sourcesOf (extensions : List String) (h : t.IsKeyed) :
    (sourcesOf extensions t).Pairwise (· < ·) := by
  have hnodup : (sourcesOf extensions t).Nodup :=
    List.nodup_mergeSort.2 (h.nodup_files.filter _)
  have hsorted : (sourcesOf extensions t).Pairwise fun p q => ¬ q < p := by
    refine (List.pairwise_mergeSort ?_ ?_ _).imp orderedParts_iff.1
    · intro p q r hpq hqr
      rw [orderedParts_iff] at hpq hqr ⊢
      exact not_lt.2 (le_trans (not_lt.1 hpq) (not_lt.1 hqr))
    · intro p q
      rw [Bool.or_eq_true, orderedParts_iff, orderedParts_iff]
      exact not_and_or.1 fun hboth => lt_asymm hboth.1 hboth.2
  exact hsorted.imp₂ (fun p q hle hne => (lt_or_gt_of_ne hne).resolve_right hle) hnodup

/-- Sources depend on nothing but the files that there are. -/
theorem sourcesOf_congr (h : t.IsKeyed) (h' : t'.IsKeyed)
    (hfiles : ∀ parts, t'.Holds parts ↔ t.Holds parts) :
    sourcesOf extensions t' = sourcesOf extensions t := by
  have hsorted := pairwise_sourcesOf extensions h
  have hsorted' := pairwise_sourcesOf extensions h'
  refine List.Perm.eq_of_pairwise (fun p q _ _ hpq hqp => absurd hqp (lt_asymm hpq)) hsorted'
    hsorted ((List.perm_ext_iff_of_nodup ?_ ?_).2 fun parts => ?_)
  · exact hsorted'.imp fun hlt => ne_of_lt hlt
  · exact hsorted.imp fun hlt => ne_of_lt hlt
  · rw [mem_sourcesOf, mem_sourcesOf, hfiles]

theorem sources_eq_map (hroot : w.find root = .ok (.directory entries)) :
    w.sources root extensions = (sourcesOf (extensions.map Text.toLower) (.directory entries)).map
      fun parts => root.join ⟨"", parts⟩ := by
  rw [sources, hroot]

theorem extension_join (root : Path) (h : parts ≠ []) : (root.join ⟨"", parts⟩).extension =
    Text.toLower (Path.suffixOf (parts.getLast?.getD "")) := by
  change Text.toLower (Path.suffixOf ((root.parts ++ parts).getLast?.getD "")) = _
  rw [List.getLast?_append_of_ne_nil _ h]

/-- The sources below a directory are the files with one of the extensions, in any letters, that lie
in no directory below it which is hidden or vendored, each of them once and in the order of their
components. Their names from the directory on do not depend on where it is, nor on the order in
which entries are listed. -/
theorem sources_directory (extensions : List String)
    (hroot : w.find root = .ok (.directory entries)) (hkeyed : (Tree.directory entries).IsKeyed) :
    (w.sources root extensions).Pairwise (fun p q => p.parts < q.parts) ∧
    (∀ p, p ∈ w.sources root extensions ↔ ∃ parts, p = root.join ⟨"", parts⟩ ∧
      (Tree.directory entries).Holds parts ∧ p.extension ∈ extensions.map Text.toLower ∧
      ∀ d ∈ parts.dropLast, d.toList.head? ≠ some '.' ∧ d ∉ vendored) ∧
    ∀ (w' : Workspace) (root' : Path) (entries' : List (String × Tree)),
      w'.find root' = .ok (.directory entries') → (Tree.directory entries').IsKeyed →
      (∀ parts, (Tree.directory entries').Holds parts ↔ (Tree.directory entries).Holds parts) →
      ∃ names : List (List String),
        w.sources root extensions = names.map (fun parts => root.join ⟨"", parts⟩) ∧
        w'.sources root' extensions = names.map fun parts => root'.join ⟨"", parts⟩ := by
  rw [sources_eq_map hroot]
  refine ⟨?_, fun p => ?_, fun w' root' entries' hroot' hkeyed' hfiles => ⟨_, rfl, ?_⟩⟩
  · rw [List.pairwise_map]
    exact (pairwise_sourcesOf _ hkeyed).imp List.append_left_lt
  · simp only [List.mem_map, mem_sourcesOf]
    constructor
    · rintro ⟨parts, ⟨hholds, hextension, hkept⟩, rfl⟩
      rw [← extension_join root hholds.ne_nil] at hextension
      exact ⟨parts, rfl, hholds, hextension, hkept⟩
    · rintro ⟨parts, rfl, hholds, hextension, hkept⟩
      rw [extension_join root hholds.ne_nil] at hextension
      exact ⟨parts, ⟨hholds, hextension, hkept⟩, rfl⟩
  · rw [sources_eq_map hroot', sourcesOf_congr hkeyed hkeyed' hfiles]

/-- Entries of a directory: a vendored one, one with the name of a source, and a hidden file. -/
def scattered : List (String × Tree) := [
  ("dist", .directory [("c.py", .file .empty)]),
  ("a.py", .directory [("dist", .file .empty), ("b.PY", .file .empty)]),
  (".d.py", .file .empty)]

/-- A workspace with a directory of such entries. -/
def workspaceOf (entries : List (String × Tree)) : Workspace :=
  ⟨Path.ofString "/ws", .directory [("build", .directory entries)]⟩

theorem find_workspaceOf (entries : List (String × Tree)) :
    (workspaceOf entries).find ⟨"", ["build"]⟩ = .ok (.directory entries) := by
  rw [find, if_neg (by decide +kernel), if_neg (by decide +kernel)]
  rfl

/-- Two files are sources and one is not, in whatever order the entries are. -/
theorem sources_directory_scattered :
    (Tree.directory scattered).IsKeyed ∧
      ((workspaceOf scattered).sources ⟨"", ["build"]⟩ [".Py"]).Pairwise
        (fun p q => p.parts < q.parts) ∧
      ⟨"", ["build", ".d.py"]⟩ ∈ (workspaceOf scattered).sources ⟨"", ["build"]⟩ [".Py"] ∧
      ⟨"", ["build", "a.py", "b.PY"]⟩ ∈ (workspaceOf scattered).sources ⟨"", ["build"]⟩ [".Py"] ∧
      ⟨"", ["build", "dist", "c.py"]⟩ ∉ (workspaceOf scattered).sources ⟨"", ["build"]⟩ [".Py"] ∧
      (workspaceOf scattered.reverse).sources ⟨"", ["build"]⟩ [".Py"] =
        (workspaceOf scattered).sources ⟨"", ["build"]⟩ [".Py"] := by
  have hfile {entries : List (String × Tree)} (hnames : (entries.map Prod.fst).Nodup)
      (hfiles : ∀ e ∈ entries, e.2 = .file .empty) : (Tree.directory entries).IsKeyed :=
    .directory hnames fun e he => hfiles e he ▸ .file
  have hentries : ∀ e ∈ scattered, e.2.IsKeyed := by
    simp only [scattered, List.forall_mem_cons]
    exact ⟨hfile (by decide) (by simp), hfile (by decide) (by simp), .file, nofun⟩
  have hkeyed : (Tree.directory scattered).IsKeyed := .directory (by decide) hentries
  have hkeyed' : (Tree.directory scattered.reverse).IsKeyed :=
    .directory (by decide) fun e he => hentries e (List.mem_reverse.1 he)
  obtain ⟨hsorted, hmem, hcongr⟩ := sources_directory [".Py"] (find_workspaceOf scattered) hkeyed
  obtain ⟨names, hnames, hnames'⟩ := hcongr _ _ _ (find_workspaceOf _) hkeyed'
    (Tree.holds_congr fun e => List.mem_reverse)
  have hheld : (Tree.directory scattered).Holds [".d.py"] ∧
      (Tree.directory scattered).Holds ["a.py", "b.PY"] :=
    ⟨Tree.mem_files.1 (by decide +kernel), Tree.mem_files.1 (by decide +kernel)⟩
  refine ⟨hkeyed, hsorted, (hmem _).2 ⟨_, rfl, hheld.1, by decide +kernel, by decide +kernel⟩,
    (hmem _).2 ⟨_, rfl, hheld.2, by decide +kernel, by decide +kernel⟩, ?_,
    hnames'.trans hnames.symm⟩
  intro hdist
  obtain ⟨parts, heq, -, -, hkept⟩ := (hmem _).1 hdist
  obtain rfl : ["dist", "c.py"] = parts := (List.cons.inj (Path.mk.inj heq).2).2
  exact (hkept "dist" (by decide)).2 (by decide)

end Workspace

end RuleReview
