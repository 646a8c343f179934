import RuleReview.Command.Runner
import RuleReview.Proofs.Diff.Header
import RuleReview.Proofs.Review.Session
import RuleReview.Proofs.Stop
import RuleReview.Proofs.Workspace

/-! What one file does to the review of the others. A file that is not there, or whose diff is not
had, is left out, and the others are reviewed as if it had not been listed. Three kinds of files
end the whole review: those with a path that no file can have, those whose diff is not well-formed
text, and those with a number in their diff that is too long. -/

namespace RuleReview.Review

/-! ### Files -/

/-- What becomes of a file: its findings are kept, or it is left out, or it ends the review. -/
inductive Fate
  | found (findings : List Finding)
  | skipped
  | ends (e : Command.Error)

namespace Fate

def findings : Fate → List Finding
  | found fs => fs
  | _ => []

def kept? (path : String) : Fate → Option (String × List Finding)
  | found fs => some (path, fs)
  | _ => none

/-- Whether a file is left out. -/
def isSkipped : Fate → Bool
  | skipped => true
  | _ => false

def cause? : Fate → Option Command.Error
  | ends e => some e
  | _ => none

/-- What becomes of a file that is not had for a cause. -/
def ofCause (e : Command.Error) : Fate := if skips e then skipped else ends e

def ofTexts (a : Analyzer) (path text diff : String) : Fate :=
  match Diff.read a.config.comments.countHunkHeaders diff with
  | .error f => ends (.fault f)
  | .ok d => found ((a.analyze text.toList none (some path)).issues.map fun i =>
      ⟨path, i, d.positionOf? i.line⟩)

/-- What becomes of a file with a text, by the process for its diff. -/
def ofProcess (a : Analyzer) (path text : String) : Command.Process → Fate
  | .missing | .timedOut => skipped
  | .refused f => ofCause (.fault f)
  | .ended code output errors =>
    match Text.Utf8.decode? output, Text.Utf8.decode? errors with
    | some diff, some _ =>
      if code = 0 then ofTexts a path text (String.ofList (Text.normalizeBreaks diff.toList))
      else skipped
    | _, _ => ends (.fault .undecodable)

end Fate

def textOf (r : Request) (path : String) : Except Fault String :=
  r.workspace.readLossy (r.directory.join (Path.ofString path))

def diffCommand (r : Request) (path : String) : List String :=
  ["git", "diff", "--no-color", Git.range r.base r.head, "--", path]

/-- What becomes of a file in a review with processes. -/
def fate (a : Analyzer) (r : Request) (start : List String → Command.Process) (path : String) :
    Fate :=
  match textOf r path with
  | .error f => .ofCause (.fault f)
  | .ok text => .ofProcess a path text (start (diffCommand r path))

/-- Whether a process ended well and wrote well-formed text. -/
def gaveText : Command.Process → Bool
  | .ended code output errors =>
    code == 0 && (Text.Utf8.decode? output).isSome && (Text.Utf8.decode? errors).isSome
  | _ => false

/-- Whether the text of a file and its diff are had. -/
def isObtained (r : Request) (start : List String → Command.Process) (path : String) : Bool :=
  (textOf r path).isOk && gaveText (start (diffCommand r path))

variable {a : Analyzer} {r : Request} {limit : Command.TimeLimit}
  {start : List String → Command.Process}

/-- What reading a file gives determines what becomes of it. -/
theorem fate_eq_readFile (a : Analyzer) (r : Request) (limit : Command.TimeLimit)
    (start : List String → Command.Process) (path : String) (j : Journal) :
    fate a r start path = match (readFile r (.ofProcess limit start) path j).1 with
      | .error e => .ofCause e
      | .ok (text, diff) => .ofTexts a path text diff := by
  simp only [readFile, fate, textOf]
  cases r.workspace.readLossy (r.directory.join (Path.ofString path)) with
  | error f => rfl
  | ok text =>
    dsimp only
    rw [Stop.fst_bind, Git.fileDiff, output_fst, Command.Runner.ofProcess, diffCommand]
    cases start ["git", "diff", "--no-color", Git.range r.base r.head, "--", path] with
    | missing => rfl
    | refused f => rfl
    | timedOut => rfl
    | ended code output errors =>
      dsimp only [Fate.ofProcess, Command.readOutput]
      cases Text.Utf8.decode? output with
      | none => rfl
      | some diff =>
        cases Text.Utf8.decode? errors with
        | none => rfl
        | some errorText =>
          by_cases hcode : code = 0
          · simp only [hcode, if_true]
            rfl
          · simp [hcode, Command.Result.isOk]
            rfl

theorem Fate.isSkipped_ofCause {e : Command.Error} (h : (ofCause e).cause? = none) :
    (ofCause e).isSkipped = true := by
  rw [ofCause] at *
  cases hskips : skips e with
  | true => rfl
  | false => simp [hskips, cause?] at h

theorem Fate.isSkipped_ofTexts (a : Analyzer) (path text diff : String) :
    (ofTexts a path text diff).isSkipped = false := by
  rw [ofTexts]
  split <;> rfl

theorem Fate.isSkipped_ofProcess {path text : String} {p : Command.Process}
    (h : (ofProcess a path text p).cause? = none) :
    (ofProcess a path text p).isSkipped = !gaveText p := by
  cases p with
  | missing => rfl
  | timedOut => rfl
  | refused f => exact isSkipped_ofCause h
  | ended code output errors =>
    rw [ofProcess] at *
    rw [gaveText]
    cases houtput : Text.Utf8.decode? output with
    | none => simp [houtput, cause?] at h
    | some diff =>
      cases herrors : Text.Utf8.decode? errors with
      | none => simp [houtput, herrors, cause?] at h
      | some errorText =>
        by_cases hcode : code = 0
        · simp [hcode, isSkipped_ofTexts]
        · simp [hcode, isSkipped]

/-- A file that does not end the review is left out if it is not had. -/
theorem isSkipped_fate {path : String} (h : (fate a r start path).cause? = none) :
    (fate a r start path).isSkipped = !isObtained r start path := by
  rw [fate] at *
  rw [isObtained]
  cases htext : textOf r path with
  | error f =>
    rw [htext] at h
    exact Fate.isSkipped_ofCause h
  | ok text =>
    rw [htext] at h
    exact Fate.isSkipped_ofProcess h

/-! ### Reviews -/

theorem ofTexts_eq_fileFindings (a : Analyzer) (path text diff : String) (j : Journal) :
    Fate.ofTexts a path text diff = match (fileFindings a path text diff [] j).1 with
      | .error e => .ends e
      | .ok fs => .found fs := by
  rw [Fate.ofTexts, fileFindings]
  cases Diff.read a.config.comments.countHunkHeaders diff with
  | error f => rfl
  | ok d => rfl

theorem logSkipped_fst (path : String) (e : Command.Error) (j : Journal) :
    (logSkipped path e j : Except Command.Error Unit × Journal).1 = .ok () := by
  cases e with
  | fault f =>
    rw [logSkipped, LogM.warnOf]
    split <;> rfl
  | failed message result => rfl
  | git message result => rfl

/-- One file: what comes of the others is kept unless this one ends the review. -/
theorem collect_cons_fst (a : Analyzer) (r : Request) (limit : Command.TimeLimit)
    (start : List String → Command.Process) (path : String) (paths : List String) (j : Journal) :
    ∃ j', (collect a r (.ofProcess limit start) [] (path :: paths) j).1 =
      match fate a r start path with
      | .found fs => (collect a r (.ofProcess limit start) [] paths j').1.map fun rest =>
          ((path, fs) :: rest.1, rest.2)
      | .skipped => (collect a r (.ofProcess limit start) [] paths j').1.map fun rest =>
          (rest.1, path :: rest.2)
      | .ends e => .error e := by
  rw [collect, Stop.fst_bind, LogM.attempt_apply, Stop.ok_bind, fate_eq_readFile a r limit _ _ j]
  cases (readFile r (.ofProcess limit start) path j).1 with
  | ok texts =>
    dsimp only
    rw [Stop.fst_bind, ofTexts_eq_fileFindings]
    have hlint : (Data.lookup path ([] : List (String × List Issue))).getD [] = [] := rfl
    rw [hlint]
    cases (fileFindings a path texts.1 texts.2 []
        (readFile r (.ofProcess limit start) path j).2).1 with
    | error e => exact ⟨j, rfl⟩
    | ok fs =>
      refine ⟨(fileFindings a path texts.1 texts.2 []
        (readFile r (.ofProcess limit start) path j).2).2, ?_⟩
      rw [Stop.ok_bind, Stop.fst_bind]
      rfl
  | error e =>
    dsimp only
    rw [Fate.ofCause]
    cases hskips : skips e with
    | false => exact ⟨j, rfl⟩
    | true =>
      refine ⟨(logSkipped path e (readFile r (.ofProcess limit start) path j).2 :
        Except Command.Error Unit × Journal).2, ?_⟩
      simp only [if_true]
      rw [Stop.fst_bind, logSkipped_fst, Stop.ok_bind, Stop.fst_bind]
      rfl

/-- The files that are reviewed with their findings, and the files that are left out, unless a
file ends the review. -/
theorem collect_fst (paths : List String) (j : Journal) :
    (collect a r (.ofProcess limit start) [] paths j).1 =
      Stop.barring (paths.filterMap fun p => (fate a r start p).cause?)
        (paths.filterMap fun p => (fate a r start p).kept? p,
          paths.filter fun p => (fate a r start p).isSkipped) := by
  induction paths generalizing j with
  | nil => rfl
  | cons path paths ih =>
    obtain ⟨j', hstep⟩ := collect_cons_fst a r limit start path paths j
    simp only [hstep, ih, List.filterMap_cons, List.filter_cons]
    cases fate a r start path with
    | found fs => exact Stop.map_barring _ _ _
    | skipped => exact Stop.map_barring _ _ _
    | ends e => rfl

/-- What a review of files finds, unless one of them ends it. -/
def outcomeOf (a : Analyzer) (r : Request) (start : List String → Command.Process)
    (files : List String) : Outcome where
  filesAnalyzed := (files.filterMap fun p => (fate a r start p).kept? p).length
  findings := files.flatMap fun p => (fate a r start p).findings
  skipped := files.filter fun p => (fate a r start p).isSkipped

theorem flatMap_kept (files : List String) :
    (files.filterMap fun p => (fate a r start p).kept? p).flatMap (·.2) =
      files.flatMap fun p => (fate a r start p).findings := by
  induction files with
  | nil => rfl
  | cons path files ih =>
    rw [List.filterMap_cons, List.flatMap_cons, ← ih]
    cases fate a r start path <;> rfl

theorem length_kept_add_skipped {files : List String}
    (h : ∀ path ∈ files, (fate a r start path).cause? = none) :
    (files.filterMap fun p => (fate a r start p).kept? p).length +
      (files.filter fun p => (fate a r start p).isSkipped).length = files.length := by
  induction files with
  | nil => rfl
  | cons path files ih =>
    obtain ⟨hpath, hfiles⟩ := List.forall_mem_cons.1 h
    have hrest := ih hfiles
    rw [List.filterMap_cons, List.filter_cons, List.length_cons, ← hrest]
    cases hfate : fate a r start path with
    | found fs => exact Nat.add_right_comm _ 1 _
    | skipped => rfl
    | ends e =>
      rw [hfate] at hpath
      cases hpath

theorem findAll_fst {files : List String} (hlinters : a.config.linters = {})
    (hfiles : (supportedFiles (.ofProcess limit start) r).outcome.1 = .ok files) :
    (findAll a r (.ofProcess limit start) {}).1 =
      Stop.barring (files.filterMap fun p => (fate a r start p).cause?)
        (outcomeOf a r start files) := by
  have hlint (j : Journal) : (Linter.run (.ofProcess limit start) a.config.linters r.directory
      files j).1 = .ok [] := by
    rw [hlinters]
    rfl
  have hfiles : (supportedFiles (.ofProcess limit start) r {}).1 = .ok files := hfiles
  simp only [findAll, Stop.fst_bind, hfiles, Stop.ok_bind, LogM.mapError_apply, hlint,
    Except.mapError, collect_fst]
  cases files.filterMap fun p => (fate a r start p).cause? with
  | nil =>
    rw [outcomeOf, ← flatMap_kept]
    rfl
  | cons e es => rfl

/-- A sink that always has an answer. -/
structure Sink.Answers {τ : Type} (sink : Sink τ) : Prop where
  existing : ∀ s, ∃ keys, (sink.existing s).1 = .ok keys
  post : ∀ c s, ∃ taken, (sink.post c s).1 = .ok taken
  postSummary : ∀ body key s, ∃ taken, (sink.postSummary body key s).1 = .ok taken

variable {τ : Type} {sink : Sink τ}

theorem postEach_answers (hsink : sink.Answers) (existing : List String) (limit : Int)
    (posted : Nat) (gs : List Group) (s : τ × Journal) :
    ∃ n, (postEach sink existing limit posted gs s).1 = .ok n := by
  induction gs generalizing posted s with
  | nil => exact ⟨posted, rfl⟩
  | cons g gs ih =>
    rw [postEach]
    split
    next => exact ⟨posted, rfl⟩
    next =>
      dsimp only
      split
      next => exact ih posted s
      next =>
        obtain ⟨taken, htaken⟩ := hsink.post g.comment s
        obtain ⟨n, hn⟩ := ih (posted + taken.toNat) (sink.post g.comment s).2
        refine ⟨n, ?_⟩
        rw [Stop.fst_bind, htaken, Stop.ok_bind, hn]

theorem postPlaces_answers (hsink : sink.Answers) (limit : Int) (fs : List Finding)
    (s : τ × Journal) : ∃ n, (postPlaces sink limit fs s).1 = .ok n := by
  rw [postPlaces]
  dsimp only
  split
  next => exact ⟨0, rfl⟩
  next =>
    obtain ⟨keys, hkeys⟩ := hsink.existing s
    obtain ⟨n, hn⟩ := postEach_answers hsink keys limit 0 (groups fs) (sink.existing s).2
    refine ⟨n, ?_⟩
    rw [Stop.fst_bind, hkeys, Stop.ok_bind, Stop.fst_bind, hn, Stop.ok_bind]
    split
    next => rfl
    next => rfl

theorem postWhole_answers (hsink : sink.Answers) (fs : List Finding) (s : τ × Journal) :
    ∃ posted, (postWhole sink fs s).1 = .ok posted := by
  obtain ⟨keys, hkeys⟩ := hsink.existing s
  rw [postWhole]
  dsimp only
  rw [Stop.fst_bind, hkeys, Stop.ok_bind]
  split
  next => exact ⟨false, rfl⟩
  next =>
    obtain ⟨taken, htaken⟩ := hsink.postSummary
      (summaryBody (fs.map (·.placed)) (Marker.ofSummary (summaryKey (fingerprint fs))))
      (summaryKey (fingerprint fs)) (sink.existing s).2
    refine ⟨taken, ?_⟩
    rw [Stop.fst_bind, htaken, Stop.ok_bind]
    split
    next => rfl
    next => rfl

/-- Publishing changes nothing of what was found. -/
theorem publish_answers (hsink : sink.Answers) (limit : Int) (o : Outcome) (s : τ × Journal) :
    ∃ n posted, (publish sink limit o s).1 =
      .ok { o with commentsPosted := n, summaryPosted := posted } := by
  rw [publish]
  split
  next =>
    obtain ⟨posted, hposted⟩ := postWhole_answers hsink o.findings s
    refine ⟨o.commentsPosted, posted, ?_⟩
    rw [Stop.fst_bind, hposted]
    rfl
  next =>
    obtain ⟨n, hn⟩ := postPlaces_answers hsink limit (mapped o.findings) s
    refine ⟨n, o.summaryPosted, ?_⟩
    rw [Stop.fst_bind, hn]
    rfl

/-- A review with a sink that answers gives what it finds, unless a file ends it. -/
theorem run_fst (hsink : sink.Answers) {files : List String} (hlinters : a.config.linters = {})
    (hfiles : (supportedFiles (.ofProcess limit start) r).outcome.1 = .ok files)
    (most : Option Int) (t : τ) :
    ∃ n posted, ((run a r (.ofProcess limit start) sink most).outcome t).1 =
      Stop.barring (files.filterMap fun p => (fate a r start p).cause?)
        { outcomeOf a r start files with commentsPosted := n, summaryPosted := posted } := by
  obtain ⟨n, posted, hpublished⟩ := publish_answers hsink
    (most.getD a.config.comments.maxComments) (outcomeOf a r start files)
    (t, (findAll a r (.ofProcess limit start) {}).2)
  refine ⟨n, posted, ?_⟩
  change (run a r (.ofProcess limit start) sink most (t, {})).1 = _
  rw [run, Stop.fst_bind]
  change (findAll a r (.ofProcess limit start) {}).1 >>= _ = _
  rw [findAll_fst hlinters hfiles]
  cases files.filterMap fun p => (fate a r start p).cause? with
  | nil =>
    change (WorldM.mapError _ (publish sink _ (outcomeOf a r start files))
      (t, (findAll a r (.ofProcess limit start) {}).2)).1 = _
    rw [WorldM.mapError_apply, hpublished]
    rfl
  | cons e es => rfl

/-- The first file that ends a review tells why. -/
theorem run_eq_error (hsink : sink.Answers) {files : List String}
    (hlinters : a.config.linters = {})
    (hfiles : (supportedFiles (.ofProcess limit start) r).outcome.1 = .ok files)
    {e : Command.Error} (he : (files.filterMap fun p => (fate a r start p).cause?).head? = some e)
    (most : Option Int) (t : τ) :
    ((run a r (.ofProcess limit start) sink most).outcome t).1 = .error e := by
  obtain ⟨n, posted, hrun⟩ := run_fst hsink hlinters hfiles most t
  rw [hrun]
  exact Stop.barring_eq_error.2 he

/-! ### Causes -/

/-- A diff is not read for a number of too many digits only. -/
theorem exists_digits_of_read {countHeaders : Bool} {text : String} {f : Fault}
    (h : Diff.read countHeaders text = .error f) :
    ∃ n, Decimal.maxDigits < n ∧ f = .tooManyDigits n := by
  rw [Diff.read] at h
  cases hpieces : Diff.pieces 0 0 (Text.breakLines text.toList) with
  | error g =>
    rw [hpieces] at h
    cases h
    obtain ⟨cs, -, hrefused⟩ := Diff.exists_refused_of_pieces hpieces
    obtain ⟨-, -, -, -, -, ds, -, hlong, rfl⟩ := Diff.exists_long_of_readRange? hrefused
    exact ⟨ds.length, hlong, rfl⟩
  | ok ps =>
    rw [hpieces] at h
    cases h

theorem Fate.cause?_ofCause {e e' : Command.Error} (h : (ofCause e).cause? = some e') :
    skips e = false ∧ e' = e := by
  rw [ofCause] at h
  cases hskips : skips e with
  | true => simp [hskips, cause?] at h
  | false =>
    simp only [hskips, Bool.false_eq_true, if_false, cause?, Option.some.injEq] at h
    exact ⟨rfl, h.symm⟩

/-- Why a file ends a review: its path has a character that no path may have, its diff is not
well-formed text, a number in its diff is too long, or the process for its diff cannot be started
for a cause that is not one of the file system. -/
theorem cause?_fate {path : String} {e : Command.Error}
    (h : (fate a r start path).cause? = some e) :
    (textOf r path = .error .nulInPath ∧ e = .fault .nulInPath) ∨
    (∃ code output errors, start (diffCommand r path) = .ended code output errors ∧
      (Text.Utf8.decode? output = none ∨ Text.Utf8.decode? errors = none) ∧
      e = .fault .undecodable) ∨
    (∃ output errors n, start (diffCommand r path) = .ended 0 output errors ∧
      Decimal.maxDigits < n ∧ e = .fault (.tooManyDigits n)) ∨
    ∃ f, start (diffCommand r path) = .refused f ∧ skips (.fault f) = false ∧ e = .fault f := by
  rw [fate] at h
  cases htext : textOf r path with
  | error f =>
    rw [htext] at h
    obtain ⟨hskips, rfl⟩ := Fate.cause?_ofCause h
    rcases Workspace.readLossy_eq_error htext with rfl | rfl | rfl | rfl | rfl
    · cases hskips
    · cases hskips
    · cases hskips
    · cases hskips
    · exact .inl ⟨rfl, rfl⟩
  | ok text =>
    rw [htext] at h
    dsimp only at h
    cases hstart : start (diffCommand r path) with
    | missing => rw [hstart] at h; cases h
    | timedOut => rw [hstart] at h; cases h
    | refused f =>
      rw [hstart] at h
      obtain ⟨hskips, rfl⟩ := Fate.cause?_ofCause h
      exact .inr (.inr (.inr ⟨f, rfl, hskips, rfl⟩))
    | ended code output errors =>
      rw [hstart, Fate.ofProcess] at h
      split at h
      next diff errorText houtput herrors =>
        split at h
        next hcode =>
          subst hcode
          rw [Fate.ofTexts] at h
          split at h
          next f hread =>
            obtain ⟨n, hn, rfl⟩ := exists_digits_of_read hread
            cases h
            exact .inr (.inr (.inl ⟨output, errors, n, rfl, hn, rfl⟩))
          next => cases h
        next => cases h
      next hnone =>
        cases h
        refine .inr (.inl ⟨code, output, errors, rfl, ?_, rfl⟩)
        cases houtput : Text.Utf8.decode? output with
        | none => exact .inl rfl
        | some diff =>
          cases herrors : Text.Utf8.decode? errors with
          | none => exact .inr rfl
          | some errorText => exact (hnone diff errorText houtput herrors).elim

/-! ### Listings -/

theorem fate_congr {start' : List String → Command.Process} {path : String}
    (h : start' (diffCommand r path) = start (diffCommand r path)) :
    fate a r start' path = fate a r start path := by
  rw [fate, fate, h]

theorem Fate.kept?_of_isSkipped {path : String} {f : Fate} (h : f.isSkipped) :
    f.kept? path = none := by
  cases f with
  | found fs => cases h
  | skipped => rfl
  | ends e => cases h

section Listing

variable {start' : List String → Command.Process} {files : List String}
  (h : ∀ path ∈ files, (fate a r start path).cause? = none)

include h

/-- The files that are had are all files with findings to keep. -/
theorem filterMap_kept_filter
    (hsame : ∀ path ∈ files, start' (diffCommand r path) = start (diffCommand r path)) :
    ((files.filter fun p => isObtained r start p).filterMap fun p =>
      (fate a r start' p).kept? p) = files.filterMap fun p => (fate a r start p).kept? p := by
  rw [List.filterMap_filter]
  refine List.filterMap_congr fun path hpath => ?_
  have hskipped := isSkipped_fate (h path hpath)
  cases hobtained : isObtained r start path with
  | true => rw [if_pos rfl, fate_congr (hsame path hpath)]
  | false =>
    rw [hobtained] at hskipped
    rw [if_neg (by decide), Fate.kept?_of_isSkipped hskipped]

/-- The review of the files that are had is that of all files, without those left out. -/
theorem outcomeOf_filter
    (hsame : ∀ path ∈ files, start' (diffCommand r path) = start (diffCommand r path)) :
    outcomeOf a r start' (files.filter fun p => isObtained r start p) =
      { outcomeOf a r start files with skipped := [] } := by
  have hkept := filterMap_kept_filter h hsame
  have hskipped : ((files.filter fun p => isObtained r start p).filter fun p =>
      (fate a r start' p).isSkipped) = [] := by
    refine List.filter_eq_nil_iff.2 fun path hpath => ?_
    obtain ⟨hmem, hobtained⟩ := List.mem_filter.1 hpath
    rw [fate_congr (hsame path hmem), isSkipped_fate (h path hmem), hobtained]
    decide
  simp only [outcomeOf, ← flatMap_kept, hkept, hskipped]

theorem skipped_outcomeOf :
    (outcomeOf a r start files).skipped = files.filter fun p => !isObtained r start p :=
  List.filter_congr fun path hpath => isSkipped_fate (h path hpath)

end Listing

/-- A file that is not had is left out of a review, and the other files are reviewed as if it had
not been listed, unless a file ends the review; then the first one that does decides. -/
theorem run_isolates_failures (a : Analyzer) (r : Request) (limit : Command.TimeLimit)
    (start : List String → Command.Process) (hsink : sink.Answers)
    (hlinters : a.config.linters = {}) {files : List String}
    (hfiles : (supportedFiles (.ofProcess limit start) r).outcome.1 = .ok files)
    (most : Option Int) (t : τ) :
    (∀ path ∈ files, ∀ e, (fate a r start path).cause? = some e →
      (textOf r path = .error .nulInPath ∧ e = .fault .nulInPath) ∨
      (∃ code output errors, start (diffCommand r path) = .ended code output errors ∧
        (Text.Utf8.decode? output = none ∨ Text.Utf8.decode? errors = none) ∧
        e = .fault .undecodable) ∨
      (∃ output errors n, start (diffCommand r path) = .ended 0 output errors ∧
        Decimal.maxDigits < n ∧ e = .fault (.tooManyDigits n)) ∨
      ∃ f, start (diffCommand r path) = .refused f ∧ skips (.fault f) = false ∧ e = .fault f) ∧
    ((∀ path ∈ files, (fate a r start path).cause? = none) →
      ∃ o, ((run a r (.ofProcess limit start) sink most).outcome t).1 = .ok o ∧
        o.filesAnalyzed + o.skipped.length = files.length ∧
        o.skipped = (files.filter fun p => !isObtained r start p) ∧
        o.findings = (files.flatMap fun p => (fate a r start p).findings) ∧
        ∀ start', (∀ path ∈ files, start' (diffCommand r path) = start (diffCommand r path)) →
          (supportedFiles (.ofProcess limit start') r).outcome.1 =
            .ok (files.filter fun p => isObtained r start p) →
          ∃ o', ((run a r (.ofProcess limit start') sink most).outcome t).1 = .ok o' ∧
            o'.filesAnalyzed = o.filesAnalyzed ∧ o'.findings = o.findings ∧ o'.skipped = []) ∧
    ∀ e, (files.filterMap fun p => (fate a r start p).cause?).head? = some e →
      ((run a r (.ofProcess limit start) sink most).outcome t).1 = .error e := by
  refine ⟨fun path _ e => cause?_fate, fun hnone => ?_,
    fun e he => run_eq_error hsink hlinters hfiles he most t⟩
  · obtain ⟨n, posted, hrun⟩ := run_fst hsink hlinters hfiles most t
    have hcauses : (files.filterMap fun p => (fate a r start p).cause?) = [] :=
      List.filterMap_eq_nil_iff.2 hnone
    rw [hcauses] at hrun
    refine ⟨_, hrun, length_kept_add_skipped hnone, skipped_outcomeOf hnone, rfl, ?_⟩
    intro start' hsame hfiles'
    obtain ⟨n', posted', hrun'⟩ := run_fst hsink hlinters hfiles' most t
    have hcauses' : ((files.filter fun p => isObtained r start p).filterMap fun p =>
        (fate a r start' p).cause?) = [] := by
      refine List.filterMap_eq_nil_iff.2 fun path hpath => ?_
      have hmem := List.mem_of_mem_filter hpath
      rw [fate_congr (hsame path hmem)]
      exact hnone path hmem
    rw [hcauses', outcomeOf_filter hnone hsame] at hrun'
    exact ⟨_, hrun', rfl, rfl, rfl⟩

theorem answers_recording : Sink.recording.Answers where
  existing := fun _ => ⟨_, rfl⟩
  post := fun _ _ => ⟨_, rfl⟩
  postSummary := fun _ _ _ => ⟨_, rfl⟩

def listing (files : String) (diff : ByteArray) (args : List String) : Command.Process :=
  .ended 0 (if args[2]? = some "--name-only" then files.toUTF8 else diff) ByteArray.empty

def twoLines : ByteArray := "@@ -0,0 +1,2 @@\n+x\n+x\n".toUTF8

/-- One of two files is gone; the other one is reviewed as if it had been alone. -/
theorem run_isolates_failures_gone :
    (supportedFiles (.ofProcess .default (listing "gone.py\na.py\n" twoLines))
      smallJob.request).outcome.1 = .ok ["gone.py", "a.py"] ∧
    ∃ o o', ((run smallJob.analyzer smallJob.request
        (.ofProcess .default (listing "gone.py\na.py\n" twoLines)) .recording).outcome {}).1 =
        .ok o ∧
      ((run smallJob.analyzer smallJob.request
        (.ofProcess .default (listing "a.py\n" twoLines)) .recording).outcome {}).1 = .ok o' ∧
      o.filesAnalyzed + o.skipped.length = 2 ∧ o.skipped = ["gone.py"] ∧
      o'.findings = o.findings ∧ o'.skipped = [] := by
  have hfiles : (supportedFiles (.ofProcess .default (listing "gone.py\na.py\n" twoLines))
      smallJob.request).outcome.1 = .ok ["gone.py", "a.py"] :=
    Stop.eq_ok_of_toOption (by decide +kernel)
  have hnone : ∀ path ∈ ["gone.py", "a.py"], (fate smallJob.analyzer smallJob.request
      (listing "gone.py\na.py\n" twoLines) path).cause? = none := by
    decide +kernel
  have halone : (supportedFiles (.ofProcess .default (listing "a.py\n" twoLines))
      smallJob.request).outcome.1 = .ok (["gone.py", "a.py"].filter fun p =>
        isObtained smallJob.request (listing "gone.py\na.py\n" twoLines) p) :=
    Stop.eq_ok_of_toOption (by decide +kernel)
  obtain ⟨-, hreview, -⟩ := run_isolates_failures smallJob.analyzer smallJob.request .default
    (listing "gone.py\na.py\n" twoLines) answers_recording rfl hfiles none {}
  obtain ⟨o, hrun, hcount, hskipped, -, hrest⟩ := hreview hnone
  obtain ⟨o', hrun', -, hfindings, hskipped'⟩ := hrest (listing "a.py\n" twoLines)
    (fun path _ => rfl) halone
  refine ⟨hfiles, o, o', hrun, hrun', hcount, ?_, hfindings, hskipped'⟩
  rw [hskipped]
  decide +kernel

/-- A byte that is no text on its own, as an `é` of one byte in a diff is. -/
def noText : ByteArray := ⟨#[0xe9]⟩

/-- A diff that is no text ends the review of all files, and so does a path that no file can have,
although the files are listed, no linter is enabled and the sink answers. -/
theorem run_breaks_off :
    smallJob.analyzer.config.linters = {} ∧ Sink.recording.Answers ∧
    (supportedFiles (.ofProcess .default (listing "a.py\nb.py\n" noText))
      smallJob.request).outcome.1 = .ok ["a.py", "b.py"] ∧
    ((run smallJob.analyzer smallJob.request (.ofProcess .default
      (listing "a.py\nb.py\n" noText)) .recording).outcome {}).1 = .error (.fault .undecodable) ∧
    (supportedFiles (.ofProcess .default (listing "b\x00.py\na.py\n" twoLines))
      smallJob.request).outcome.1 = .ok ["b\x00.py", "a.py"] ∧
    ((run smallJob.analyzer smallJob.request (.ofProcess .default
      (listing "b\x00.py\na.py\n" twoLines)) .recording).outcome {}).1 =
        .error (.fault .nulInPath) := by
  have hfiles : (supportedFiles (.ofProcess .default (listing "a.py\nb.py\n" noText))
      smallJob.request).outcome.1 = .ok ["a.py", "b.py"] :=
    Stop.eq_ok_of_toOption (by decide +kernel)
  have hcause : (["a.py", "b.py"].filterMap fun p => (fate smallJob.analyzer smallJob.request
      (listing "a.py\nb.py\n" noText) p).cause?).head? = some (.fault .undecodable) := by
    decide +kernel
  have hnulFiles : (supportedFiles (.ofProcess .default (listing "b\x00.py\na.py\n" twoLines))
      smallJob.request).outcome.1 = .ok ["b\x00.py", "a.py"] :=
    Stop.eq_ok_of_toOption (by decide +kernel)
  have hnulCause : (["b\x00.py", "a.py"].filterMap fun p => (fate smallJob.analyzer
      smallJob.request (listing "b\x00.py\na.py\n" twoLines) p).cause?).head? =
        some (.fault .nulInPath) := by
    decide +kernel
  exact ⟨rfl, answers_recording, hfiles, run_eq_error answers_recording rfl hfiles hcause none {},
    hnulFiles, run_eq_error answers_recording rfl hnulFiles hnulCause none {}⟩

end RuleReview.Review
