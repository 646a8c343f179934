import RuleReview.Proofs.Data
import RuleReview.Proofs.Decimal.Integer
import RuleReview.Proofs.Text.Words
import RuleReview.Review.Comment
import RuleReview.Review.Marker

/-! Markers that are read back from the comments they end. Nothing in a comment before its
marker is taken for one, and the marker is split at blanks, those in the path among them.
Proved: a comment tells the key it was posted under, unless a word of the path after the
first one has the form of a key itself; then the last such word is told. -/

namespace RuleReview.Review

open Text (IsWord IsTrimmed IsPlain)

/-! ### Keys -/

theorem length_hexDigits (n width : Nat) : (Text.hexDigits n width).length = width := by
  induction width generalizing n with
  | zero => rfl
  | succ width ih => simp [Text.hexDigits, ih]

/-- A digit of base sixteen is not blank. -/
theorem isBlank_of_mem_hexDigits {n width : Nat} {c : Char} (h : c ∈ Text.hexDigits n width) :
    Text.isBlank c = false := by
  have hdigit : ∀ k < 16, Text.isBlank (Nat.digitChar k) = false := by decide
  induction width generalizing n with
  | zero => cases h
  | succ width ih =>
    rcases List.mem_append.1 h with h | h
    · exact ih h
    · obtain rfl := List.mem_singleton.1 h
      exact hdigit _ (Nat.mod_lt n (by decide))

theorem length_hex (s : String) : (Digest.hex s).length = 40 := by
  simp [Digest.hex, length_hexDigits, Digest.State.words]

theorem isWord_take_hex (s : String) : IsWord ((Digest.hex s).take 12) := by
  refine ⟨fun hnil => ?_, fun c hc => ?_⟩
  · have hlength := congrArg List.length hnil
    rw [List.length_take, length_hex] at hlength
    cases hlength
  · obtain ⟨w, -, hw⟩ := List.mem_flatMap.1 (List.mem_of_mem_take hc)
    exact isBlank_of_mem_hexDigits hw

theorem isWord_commentKey (path : String) (line : Int) : IsWord (commentKey path line).toList := by
  rw [commentKey, String.toList_ofList]
  exact isWord_take_hex _

theorem isWord_summaryKey (fingerprint : String) : IsWord (summaryKey fingerprint).toList := by
  have hkey : (summaryKey fingerprint).toList =
      "summary-".toList ++ (Digest.hex fingerprint).take 12 := by simp [summaryKey]
  rw [hkey]
  exact .append (by decide) (isWord_take_hex fingerprint).2

namespace Marker

/-! ### Fields -/

theorem readField?_eq_some_iff {cs : List Char} {name value : String} :
    readField? cs = some (name, value) ↔
      name.toList ≠ [] ∧ '=' ∉ name.toList ∧ value.toList ≠ [] ∧
        cs = name.toList ++ '=' :: value.toList := by
  have hsplit : cs = cs.takeWhile (· != '=') ++ cs.dropWhile (· != '=') :=
    List.takeWhile_append_dropWhile.symm
  constructor
  · intro h
    rw [readField?] at h
    split at h
    next d c value' hdrop =>
      split at h
      next => cases h
      next hname =>
        obtain ⟨rfl, rfl⟩ : String.ofList (cs.takeWhile (· != '=')) = name ∧
            String.ofList (c :: value') = value := by simpa using h
        have hd := List.head?_dropWhile_not (· != '=') cs
        rw [hdrop] at hd hsplit
        obtain rfl : d = '=' := by simpa using hd
        refine ⟨by simpa using hname, ?_, by simp, by simpa using hsplit⟩
        intro hmem
        rw [String.toList_ofList] at hmem
        simpa using List.all_eq_true.1 List.all_takeWhile _ hmem
    next => cases h
  · rintro ⟨hname, hequals, hvalue, rfl⟩
    have hne : ∀ c ∈ name.toList, (c != '=') = true := by
      intro c hc
      simpa using fun heq : c = '=' => hequals (heq ▸ hc)
    obtain ⟨c, value', hcons⟩ := List.exists_cons_of_ne_nil hvalue
    have hback : String.ofList (c :: value') = value := by rw [← hcons, String.ofList_toList]
    rw [readField?, List.takeWhile_append_of_pos hne, List.dropWhile_append_of_pos hne, hcons]
    simp [hname, hback]

/-- The value of a word that gives a key. -/
def keyField? (w : List Char) : Option String :=
  ((Text.takeFront? "key=".toList w).filter (!·.isEmpty)).map String.ofList

theorem keyField?_eq_some_iff {w : List Char} {value : String} :
    keyField? w = some value ↔ value.toList ≠ [] ∧ w = "key=".toList ++ value.toList := by
  rw [keyField?, Option.map_eq_some_iff]
  constructor
  · rintro ⟨cs, hcs, rfl⟩
    obtain ⟨hcs, hne⟩ := Option.filter_eq_some_iff.1 hcs
    rw [String.toList_ofList]
    exact ⟨by simpa using hne, Text.takeFront?_eq_some_iff.1 hcs⟩
  · rintro ⟨hne, rfl⟩
    have hfilter : (Text.takeFront? "key=".toList ("key=".toList ++ value.toList)).filter
        (!·.isEmpty) = some value.toList :=
      Option.filter_eq_some_iff.2 ⟨Text.takeFront?_append .., by simpa using hne⟩
    exact ⟨value.toList, hfilter, String.ofList_toList⟩

theorem valuesOf_key (ws : List (List Char)) :
    Data.valuesOf "key" (ws.filterMap readField?) = ws.filterMap keyField? := by
  rw [Data.valuesOf, List.filterMap_filterMap]
  congr 1
  funext w
  ext value
  rw [Option.bind_eq_some_iff, keyField?_eq_some_iff]
  constructor
  · rintro ⟨⟨name, value'⟩, hfield, hname⟩
    obtain ⟨-, -, hne, rfl⟩ := readField?_eq_some_iff.1 hfield
    dsimp only at hname
    split at hname
    next hkey =>
      cases hname
      exact ⟨hne, by rw [hkey]; rfl⟩
    next => cases hname
  · rintro ⟨hne, rfl⟩
    exact ⟨("key", value), readField?_eq_some_iff.2 ⟨by decide, by decide, hne, rfl⟩, if_pos rfl⟩

/-! ### Markers of comments -/

/-- The value that a path gives for a key: the one of its last word that does, where its
first word, to which the name of the field belongs, is left out. -/
def keyInside? (path : String) : Option String :=
  ((Text.words path.toList).tail.filterMap keyField?).getLast?

/-- What stands between the ends of a marker. -/
def inner (key path line : List Char) : List Char :=
  tag.toList ++ ' ' :: ("key=".toList ++ key ++ ' ' :: ("path=".toList ++ path ++
    ' ' :: ("line=".toList ++ line)))

theorem toList_ofComment (key path : String) (line : Int) :
    (ofComment key path line).toList =
      "<!--".toList ++ ' ' :: (inner key.toList path.toList (toString line).toList ++
        ' ' :: closing.toList) := by
  have hself (s : String) : toString s = s := rfl
  simp [ofComment, inner, opening, hself]

section inner

variable {key path line : List Char}

/-- A marker is split into its fields and, at the blanks of the path, into more words. -/
theorem exists_words_inner (hkey : IsWord key) (hpath : IsTrimmed path) (hline : IsWord line) :
    ∃ w, Text.words (inner key path line) =
      tag.toList :: ("key=".toList ++ key) :: ("path=".toList ++ w) ::
        ((Text.words path).tail ++ ["line=".toList ++ line]) := by
  obtain ⟨w, rest, hw, hrest, hsplit, hwords⟩ := Text.exists_words_eq hpath.1
  have hblank : Text.isBlank ' ' = true := by decide
  have htag : IsWord tag.toList := by decide
  have hkeyWord : IsWord ("key=".toList ++ key) := IsWord.append (by decide) hkey.2
  have hpathWord : IsWord ("path=".toList ++ w) := IsWord.append (by decide) hw.2
  have hlineWord : IsWord ("line=".toList ++ line) := IsWord.append (by decide) hline.2
  have hpathWords : Text.words ("path=".toList ++ path) =
      ("path=".toList ++ w) :: (Text.words path).tail := by
    rw [hwords, List.tail_cons, hsplit, ← List.append_assoc, Text.words_append hpathWord hrest]
  refine ⟨w, ?_⟩
  rw [inner, Text.words_append_blank hblank, Text.words_append_blank hblank,
    Text.words_append_blank hblank, Text.words_of_isWord htag, Text.words_of_isWord hkeyWord,
    Text.words_of_isWord hlineWord, hpathWords]
  rfl

theorem isTrimmed_inner (hline : IsWord line) : IsTrimmed (inner key path line) := by
  have htag : IsWord tag.toList := by decide
  have h := htag.isTrimmed.append hline.isTrimmed
    (' ' :: ("key=".toList ++ key ++ ' ' :: ("path=".toList ++ path ++ ' ' :: "line=".toList)))
  simpa [inner] using h

end inner

theorem dropFront_append (front rest : List Char) :
    dropFront front (front ++ rest) = Text.trim rest := by
  rw [dropFront, Text.takeFront?_append]

theorem dropEnd_append (ending cs : List Char) :
    dropEnd ending (cs ++ ending) = Text.trim cs := by
  rw [dropEnd, List.reverse_append, Text.takeFront?_append]
  simp

section shape

variable {marker : String} {inside rest : List Char}

theorem isTrimmed_marker
    (h : marker.toList = "<!--".toList ++ ' ' :: (inside ++ ' ' :: closing.toList)) :
    IsTrimmed marker.toList := by
  have hends : IsWord "<!--".toList ∧ IsWord closing.toList := by decide
  have htrimmed := hends.1.isTrimmed.append hends.2.isTrimmed (' ' :: (inside ++ [' ']))
  simpa [h] using htrimmed

/-- The fields of a marker are those of the words between its ends. -/
theorem fields_eq (h : marker.toList = "<!--".toList ++ ' ' :: (inside ++ ' ' :: closing.toList))
    (hinside : IsTrimmed inside) (htag : inside = tag.toList ++ ' ' :: rest) :
    fields marker =
      Data.assignAll (((Text.words inside).drop 1).filterMap readField?) := by
  have hblank : Text.isBlank ' ' = true := by decide
  have hclosing : IsWord closing.toList := by decide
  have hclosed : IsTrimmed (inside ++ ' ' :: closing.toList) :=
    hinside.append hclosing.isTrimmed [' ']
  have hopened : dropEnd closing.toList (dropFront "<!--".toList (Text.trim marker.toList)) =
      inside := by
    rw [(isTrimmed_marker h).trim_eq, h, dropFront_append, Text.trim_blank_cons hblank,
      hclosed.trim_eq, List.append_cons, dropEnd_append, hinside.trim_concat hblank]
  have hfront : tag.toList.isPrefixOf inside :=
    List.isPrefixOf_iff_prefix.2 (htag ▸ List.prefix_append _ _)
  rw [fields, hopened, if_pos hfront]

theorem readLine_eq_keyOf
    (h : marker.toList = "<!--".toList ++ ' ' :: (inside ++ ' ' :: closing.toList))
    (htag : inside = tag.toList ++ ' ' :: rest) :
    readLine marker.toList = keyOf (fields marker) := by
  have hopening : Text.startsWith marker (opening ++ tag ++ " ") = true := by
    rw [Text.startsWith, List.isPrefixOf_iff_prefix, h, htag]
    exact ⟨rest ++ ' ' :: closing.toList, by simp [opening]⟩
  have hclosing : Text.endsWith marker closing = true := by
    rw [Text.endsWith, List.isPrefixOf_iff_prefix, List.reverse_prefix, h]
    exact ⟨"<!--".toList ++ ' ' :: (inside ++ [' ']), by simp⟩
  rw [readLine, (isTrimmed_marker h).trim_eq, String.ofList_toList, hopening, hclosing]
  rfl

end shape

/-- What the fields of a marker give for the key. -/
theorem lookup_fields_ofComment {key path : String} {line : Int} (hkey : IsWord key.toList)
    (hpath : IsTrimmed path.toList) (hline : IsWord (toString line).toList) :
    Data.lookup "key" (fields (ofComment key path line)) =
      some ((keyInside? path).getD key) := by
  obtain ⟨w, hwords⟩ := exists_words_inner hkey hpath hline
  have hkeyField : keyField? ("key=".toList ++ key.toList) = some key :=
    keyField?_eq_some_iff.2 ⟨hkey.1, rfl⟩
  have hothers : keyField? ("path=".toList ++ w) = none ∧
      keyField? ("line=".toList ++ (toString line).toList) = none := ⟨rfl, rfl⟩
  rw [fields_eq (toList_ofComment key path line) (isTrimmed_inner hline) rfl,
    Data.lookup_assignAll, valuesOf_key, hwords, List.drop_one, List.tail_cons,
    List.filterMap_cons_some hkeyField, List.filterMap_cons_none hothers.1, List.filterMap_append,
    List.filterMap_cons_none hothers.2, List.filterMap_nil, List.append_nil, List.getLast?_cons,
    keyInside?]

end Marker

/-! ### Comments -/

/-- An issue that is told in one line. -/
def HasPlainTexts (i : Issue) : Prop :=
  IsPlain i.message.toList ∧ ∀ fix ∈ i.fix, IsPlain fix.toList

theorem isPlain_issueLine {i : Issue} (h : HasPlainTexts i) : IsPlain (issueLine i).toList := by
  have hself (s : String) : toString s = s := rfl
  have hsign : IsPlain i.severity.sign.toList ∧ IsPlain i.severity.name.toList := by
    cases i.severity <;> decide
  have hplaces := (Decimal.isWord_twoPlaces i.confidence).isPlain
  simp only [issueLine, hself, String.toList_append, Text.isPlain_append, and_assoc]
  refine ⟨by decide, hsign.1, by decide, hsign.2, by decide, h.1, by decide, by decide, hplaces,
    by decide, ?_⟩
  split
  next fix hfix =>
    have hplain := h.2 fix (Option.filter_eq_some_iff.1 hfix).1
    rw [String.toList_append, Text.isPlain_append]
    exact ⟨by decide, hplain⟩
  next => decide

theorem toList_issueLine (i : Issue) : ∃ rest, (issueLine i).toList = '-' :: rest := by
  have hself (s : String) : toString s = s := rfl
  simp [issueLine, hself]

def openingLines (issues : List Issue) : List (List Char) :=
  let left := issues.length - maxIssues
  "**CodeSentry** found the following issue(s):".toList ::
    (((Issue.prioritize issues).take maxIssues).map fun i => (issueLine i).toList) ++
    (if left = 0 then [] else [s!"- …and {left} more finding(s) on this line.".toList]) ++ [[]]

theorem intercalate_newline (ls : List (List Char)) (l : List Char) :
    ['\n'].intercalate (ls ++ [l]) = Text.unlines ls ++ l := by
  induction ls with
  | nil => simp [Text.unlines]
  | cons m ls ih =>
    rw [List.cons_append, List.intercalate_cons_of_ne_nil (by simp), ih]
    simp [Text.unlines]

theorem toList_commentBody (issues : List Issue) (marker : String) :
    (commentBody issues marker).toList = Text.unlines (openingLines issues) ++ marker.toList := by
  have hlength : (Issue.prioritize issues).length = issues.length := List.length_mergeSort _
  rw [← intercalate_newline, commentBody, String.toList_intercalate]
  congr 1
  by_cases hleft : issues.length - maxIssues = 0 <;>
    simp [openingLines, hlength, hleft, Function.comp_def]

/-- Whether a line starts otherwise than one with a marker does. -/
def startsApart (l : List Char) : Bool := l.head?.all fun c => !Text.isBlank c && c != '<'

theorem startsApart_append {as : List Char} (h : as ≠ []) (bs : List Char) :
    startsApart (as ++ bs) = startsApart as := by
  rw [startsApart, List.head?_append_of_ne_nil _ h, startsApart]

/-- Nothing before the marker of a comment is broken into more lines or taken for a marker. -/
theorem isPlain_openingLines {issues : List Issue} (h : ∀ i ∈ issues, HasPlainTexts i)
    {l : List Char} (hl : l ∈ openingLines issues) : IsPlain l ∧ startsApart l := by
  have hself (s : String) : toString s = s := rfl
  simp only [openingLines, List.cons_append, List.mem_cons, List.mem_append, List.mem_map] at hl
  rcases hl with rfl | (⟨i, hi, rfl⟩ | hleft) | rfl | hnil
  · exact ⟨by decide, by decide⟩
  · have hi : i ∈ issues := (List.mergeSort_perm _ _).mem_iff.1 (List.mem_of_mem_take hi)
    obtain ⟨rest, hrest⟩ := toList_issueLine i
    refine ⟨isPlain_issueLine (h i hi), ?_⟩
    rw [hrest]
    exact startsApart_append (List.cons_ne_nil '-' []) rest
  · split at hleft
    next => cases hleft
    next =>
      obtain rfl := List.mem_singleton.1 hleft
      have hdigits := (Decimal.isWord_digits (issues.length - maxIssues)).isPlain
      rw [← Decimal.toList_toString_nat] at hdigits
      simp only [hself, String.toList_append, List.append_assoc, Text.isPlain_append]
      exact ⟨⟨by decide, hdigits, by decide⟩, startsApart_append (by decide) _⟩
  · exact ⟨by decide, rfl⟩
  · cases hnil

namespace Marker

/-! ### Comments with a marker -/

/-- A line that starts otherwise than a marker tells nothing. -/
theorem readLine_eq_passed {l : List Char} (h : startsApart l) : readLine l = .passed := by
  cases l with
  | nil => decide
  | cons c cs =>
    obtain ⟨hblank, hsign⟩ : Text.isBlank c = false ∧ c ≠ '<' := by simpa [startsApart] using h
    obtain ⟨rest, hrest⟩ := Text.exists_trim_cons hblank cs
    have hopening :
        Text.startsWith (String.ofList (c :: rest)) (opening ++ tag ++ " ") = false := by
      simp [Text.startsWith, opening, List.isPrefixOf, Ne.symm hsign]
    rw [readLine, hrest, hopening]
    rfl

theorem keyOfLines_append {ls : List (List Char)} (h : ∀ l ∈ ls, readLine l = .passed)
    (rest : List (List Char)) : keyOfLines (ls ++ rest) = keyOfLines rest := by
  induction ls with
  | nil => rfl
  | cons l ls ih =>
    rw [List.forall_mem_cons] at h
    rw [List.cons_append, keyOfLines, h.1, ih h.2]

theorem readLine_ofComment {key path : String} {line : Int} (hkey : IsWord key.toList)
    (hpath : IsTrimmed path.toList) :
    readLine (ofComment key path line).toList = .found (some ((keyInside? path).getD key)) := by
  have hkeyOf := lookup_fields_ofComment hkey hpath (Decimal.isWord_toString line)
  rw [readLine_eq_keyOf (toList_ofComment key path line) rfl]
  simp [keyOf, hkeyOf]

theorem toList_ofSummary (key : String) : (ofSummary key).toList =
    "<!--".toList ++ ' ' :: ((tag.toList ++ ' ' :: ("key=".toList ++ key.toList)) ++
      ' ' :: closing.toList) := by
  have hself (s : String) : toString s = s := rfl
  simp [ofSummary, opening, hself]

theorem isPlain_ofSummary {key : String} (hkey : IsWord key.toList) :
    IsPlain (ofSummary key).toList := by
  have hblank : Text.endsLine ' ' = false := by decide
  have hnames : IsPlain "<!--".toList ∧ IsPlain tag.toList ∧ IsPlain "key=".toList ∧
      IsPlain closing.toList := by decide
  simp only [toList_ofSummary, Text.isPlain_append, Text.isPlain_cons, hblank, hnames,
    hkey.isPlain, and_self]

theorem readLine_ofSummary {key : String} (hkey : IsWord key.toList) :
    readLine (ofSummary key).toList = .found (some key) := by
  have htag : IsWord tag.toList := by decide
  have hfield : IsWord ("key=".toList ++ key.toList) := IsWord.append (by decide) hkey.2
  have hinside : IsTrimmed (tag.toList ++ ' ' :: ("key=".toList ++ key.toList)) :=
    htag.isTrimmed.append hfield.isTrimmed [' ']
  have hkeyField : keyField? ("key=".toList ++ key.toList) = some key :=
    keyField?_eq_some_iff.2 ⟨hkey.1, rfl⟩
  have hlookup : Data.lookup "key" (fields (ofSummary key)) = some key := by
    rw [fields_eq (toList_ofSummary key) hinside rfl, Data.lookup_assignAll, valuesOf_key,
      Text.words_append_blank (by decide), Text.words_of_isWord htag, Text.words_of_isWord hfield,
      List.singleton_append, List.drop_one, List.tail_cons, List.filterMap_cons_some hkeyField]
    rfl
  rw [readLine_eq_keyOf (toList_ofSummary key) rfl]
  simp [keyOf, hlookup]

/-- A comment tells the key that its marker gives, or the last one in the path. -/
theorem key?_commentBody_ofComment {issues : List Issue} (hissues : ∀ i ∈ issues, HasPlainTexts i)
    {key path : String} (hkey : IsWord key.toList) (hpath : IsTrimmed path.toList)
    (hplain : IsPlain path.toList) (line : Int) :
    key? (commentBody issues (ofComment key path line)) =
      some ((keyInside? path).getD key) := by
  have hlines : (openingLines issues).flatMap (fun l => Text.firstLine l :: Text.laterLines l) =
      openingLines issues := by
    calc (openingLines issues).flatMap (fun l => Text.firstLine l :: Text.laterLines l)
        = (openingLines issues).flatMap ([·]) := List.flatMap_congr fun l hl => by
          have hl := (isPlain_openingLines hissues hl).1
          rw [Text.firstLine_of_isPlain hl, Text.laterLines_of_isPlain hl]
      _ = openingLines issues := List.flatMap_singleton' _
  have hmarker : IsPlain (ofComment key path line).toList := by
    have hline := (Decimal.isWord_toString line).isPlain
    have hblank : Text.endsLine ' ' = false := by decide
    have hnames : IsPlain "<!--".toList ∧ IsPlain tag.toList ∧ IsPlain "key=".toList ∧
        IsPlain "path=".toList ∧ IsPlain "line=".toList ∧ IsPlain closing.toList := by decide
    simp only [toList_ofComment, inner, Text.isPlain_append, Text.isPlain_cons, hblank, hnames,
      hline, hkey.isPlain, hplain, and_self]
  have hne : (ofComment key path line).toList ≠ [] := by simp [toList_ofComment]
  rw [key?, toList_commentBody, Text.breakLines_unlines_append, hlines,
    Text.breakLines_eq_singleton hmarker hne,
    keyOfLines_append fun l hl => readLine_eq_passed (isPlain_openingLines hissues hl).2,
    keyOfLines, readLine_ofComment hkey hpath]

end Marker

/-- A comment tells the key it was posted under exactly if no word of the path after its first
one gives a key, or the last one that does gives this key. -/
theorem key?_commentBody {issues : List Issue} (hissues : ∀ i ∈ issues, HasPlainTexts i)
    {path : String} (hpath : IsTrimmed path.toList) (hplain : IsPlain path.toList) (line : Int) :
    Marker.key? (commentBody issues (Marker.ofComment (commentKey path line) path line)) =
        some ((Marker.keyInside? path).getD (commentKey path line)) ∧
      (Marker.key? (commentBody issues (Marker.ofComment (commentKey path line) path line)) =
          some (commentKey path line) ↔
        ∀ key ∈ Marker.keyInside? path, key = commentKey path line) := by
  have hkey := Marker.key?_commentBody_ofComment hissues (isWord_commentKey path line) hpath hplain
    line
  refine ⟨hkey, ?_⟩
  rw [hkey]
  cases Marker.keyInside? path <;> simp

/-- An issue whose texts look like markers. -/
def lookalike : Issue where
  source := "core"
  category := "Style"
  severity := .low
  line := 3
  column := 1
  message := "<!-- codesentry:v1 key=none -->"
  confidence := 4 / 5
  fix := some "key=other -->"

theorem hasPlainTexts_lookalike : HasPlainTexts lookalike := by
  refine ⟨by decide, ?_⟩
  rintro _ ⟨⟩
  decide

/-- A path with words that look like fields and ends of markers. -/
def lookalikePath : String := "src/key=a key= b=c line=7 -->"

theorem key?_commentBody_lookalike :
    HasPlainTexts lookalike ∧ IsTrimmed lookalikePath.toList ∧
      IsPlain lookalikePath.toList ∧
      Marker.key? (commentBody [lookalike]
          (Marker.ofComment (commentKey lookalikePath 3) lookalikePath 3)) =
        some (commentKey lookalikePath 3) := by
  have htrimmed : IsTrimmed lookalikePath.toList :=
    ⟨⟨'s', rfl, by decide⟩, '>', rfl, by decide⟩
  have hplain : IsPlain lookalikePath.toList := by decide
  have hinside : Marker.keyInside? lookalikePath = none := by decide +kernel
  refine ⟨hasPlainTexts_lookalike, htrimmed, hplain, ?_⟩
  rw [(key?_commentBody (List.forall_mem_singleton.2 hasPlainTexts_lookalike) htrimmed hplain 3).1,
    hinside]
  rfl

/-- A blank in a path lets a later word of it stand in for the key. -/
theorem key?_commentBody_keyInPath :
    HasPlainTexts lookalike ∧ IsTrimmed "a key=x.py".toList ∧ IsPlain "a key=x.py".toList ∧
      Marker.key? (commentBody [lookalike]
          (Marker.ofComment (commentKey "a key=x.py" 1) "a key=x.py" 1)) = some "x.py" ∧
      commentKey "a key=x.py" 1 ≠ "x.py" := by
  have htrimmed : IsTrimmed "a key=x.py".toList := ⟨⟨'a', rfl, by decide⟩, 'y', rfl, by decide⟩
  have hplain : IsPlain "a key=x.py".toList := by decide
  have hinside : Marker.keyInside? "a key=x.py" = some "x.py" := by decide +kernel
  refine ⟨hasPlainTexts_lookalike, htrimmed, hplain, ?_, by decide +kernel⟩
  rw [Marker.key?_commentBody_ofComment (List.forall_mem_singleton.2 hasPlainTexts_lookalike)
    (isWord_commentKey _ _) htrimmed hplain, hinside]
  rfl

end RuleReview.Review
