import RuleReview.Action
import RuleReview.CommandLine.Run
import RuleReview.Proofs.Config.Readers
import RuleReview.Proofs.Console.Print
import RuleReview.Proofs.Stop

/-! Reading the configuration of a project from its file, and how a command line or an action
ends whose configuration is refused. -/

namespace RuleReview

namespace Config

open Stop (StopsFor stopsFor_ok stopsFor_error)

variable {w : Workspace} {project : Path} {content : ByteArray}

/-! ### Files -/

def fileComplaints (words : String → String) (path : Path) (content : ByteArray) : List Failure :=
  match Text.Utf8.decode? content with
  | none => [.fault .undecodable]
  | some s =>
    match Toml.read (Workspace.withLineFeeds s) with
    | .error .malformed =>
      [.invalid (.malformedFile path.toString (words (Workspace.withLineFeeds s)))]
    | .error (.tooManyDigits n) => [.fault (.tooManyDigits n)]
    | .error .tooDeep => [.fault .tooDeepToml]
    | .ok file => ((ownTable? file).map complaints).getD []

theorem exists?_of_readBytes (h : w.readBytes project = .ok content) :
    w.exists? project = true := by
  rw [Workspace.readBytes] at h
  rw [Workspace.exists?]
  cases hfind : w.find project with
  | ok t => rfl
  | error f => rw [hfind] at h; cases h

theorem load_stopsFor (words : String → String)
    (hfile : w.readBytes (filePath project) = .ok content) :
    StopsFor (load words w project) (fileComplaints words (filePath project) content) := by
  rw [load, fileComplaints]
  simp only [exists?_of_readBytes hfile, Workspace.readText, hfile]
  cases Text.Utf8.decode? content with
  | none => exact stopsFor_error _ _
  | some s =>
    simp only [pure_bind]
    cases Toml.read (Workspace.withLineFeeds s) with
    | error e => cases e <;> exact stopsFor_error _ _
    | ok file =>
      dsimp only
      cases ownTable? file with
      | none => exact stopsFor_ok _
      | some t => exact ofTable_stopsFor project t

/-- The cause for which the content of a file ends the reading, instead of being refused: it is
no text, or has an integer with too many digits or parts that are nested too deep, or what it
holds about this library has one. -/
def FileBreaks (content : ByteArray) (f : Fault) : Prop :=
  match Text.Utf8.decode? content with
  | none => f = .undecodable
  | some s =>
    match Toml.read (Workspace.withLineFeeds s) with
    | .error .malformed => False
    | .error (.tooManyDigits n) => f = .tooManyDigits n
    | .error .tooDeep => f = .tooDeepToml
    | .ok file => ∃ t, ownTable? file = some t ∧ Breaks t f

theorem fault_mem_fileComplaints {words : String → String} {path : Path} {f : Fault} :
    .fault f ∈ fileComplaints words path content ↔ FileBreaks content f := by
  rw [fileComplaints, FileBreaks]
  cases Text.Utf8.decode? content with
  | none => simp
  | some s =>
    dsimp only
    cases Toml.read (Workspace.withLineFeeds s) with
    | error e => cases e <;> simp
    | ok file => cases hown : ownTable? file <;> simp [hown, fault_mem_complaints]

end Config

/-! ### Runs -/

namespace CommandLine

variable {σ : Type} {s : Setting σ} {o : Order} {e : Config.Error}

/-- What a command line says of a configuration that is refused. -/
def refusal (e : Config.Error) : String := "Invalid configuration: " ++ e.message

/-- Every task begins with the configuration. -/
theorem perform_of_loadConfig {cause : Stop} (h : loadConfig s o.project = throw cause) :
    perform s o = throw cause := by
  have hanalyzer : loadAnalyzer s o.project = throw cause := by
    rw [loadAnalyzer, h]
    rfl
  rw [perform]
  cases o.task with
  | analyze t =>
    change analyze s o t = _
    rw [analyze, hanalyzer]
    rfl
  | rules format =>
    change listRules s o format = _
    rw [listRules, hanalyzer]
    rfl
  | detect path format =>
    change detect s o path format = _
    rw [detect, h]
    rfl
  | position file line countHeaders =>
    change tellPosition s o file line countHeaders = _
    rw [tellPosition, h]
    rfl
  | review r =>
    change review s o r = _
    rw [review, hanalyzer]
    rfl
  | serve host port =>
    change serve s o host port = _
    rw [serve, hanalyzer]
    rfl

theorem run_of_loadConfig {token : Option String} {words : List String} {cause : Stop}
    (hwords : readWords s.workspace token words = some (.order o))
    (h : loadConfig s o.project = throw cause) (k : Http.Connection σ) :
    (run s token words k).1 = endOf (.error cause) "" (logText s o.verbosity {}) := by
  rw [run, hwords]
  dsimp only
  rw [perform_of_loadConfig h]
  rfl

/-- The code that a command line ends with where no configuration is read: what is refused is
told, unless its text has tags that do not match. -/
def codeOf : Config.Failure → Nat
  | .invalid e => if (Console.Markup.read (refusal e)).isOk then 2 else 1
  | .fault _ => 1

theorem code_run_of_load {token : Option String} {words : List String} {e : Config.Failure}
    (hwords : readWords s.workspace token words = some (.order o))
    (h : Config.load s.words s.workspace o.project = .error e) (k : Http.Connection σ) :
    (run s token words k).1.code = codeOf e := by
  cases e with
  | fault f =>
    have hload : loadConfig s o.project = throw (.broken (.fault f)) := by
      rw [loadConfig, h]
    rw [run_of_loadConfig hwords hload]
    rfl
  | invalid e =>
    have hload : loadConfig s o.project = complain s 2 (refusal e) := by
      rw [loadConfig, h]
      rfl
    rw [codeOf, ← Console.isOk_marked s.width]
    rw [complain] at hload
    cases hmarked : Console.marked s.width (refusal e) with
    | ok ls =>
      rw [hmarked] at hload
      rw [run_of_loadConfig hwords hload]
      rfl
    | error cause =>
      rw [hmarked] at hload
      rw [run_of_loadConfig hwords hload]
      rfl

theorem codeOf_of_notMem (h : '[' ∉ e.message.toList) : codeOf (.invalid e) = 2 := by
  have hrefusal : '[' ∉ (refusal e).toList := by
    unfold refusal
    rw [String.toList_append]
    exact List.not_mem_append (by decide +kernel) h
  simp only [codeOf, Console.Markup.read_of_notMem hrefusal]
  rfl

end CommandLine

namespace Action

variable {σ : Type} {w : Workspace}

/-- What an action stops for where no configuration is read. -/
def stopOf : Config.Failure → Stop
  | .invalid _ => .exit 2
  | .fault f => .fault f

theorem run_of_load {words : String → String} {e : Config.Failure}
    (h : Config.load words w w.root = .error e) (env : Environment) (runner : Command.Runner)
    (client : Http.Client σ) (k : Http.Connection σ) :
    ((run words env w runner client).outcome k).1 = .error (stopOf e) := by
  have hread (st : Http.Connection σ × Journal) :
      (readConfig words w st : Except Stop Config × _).1 = .error (stopOf e) := by
    rw [readConfig, h]
    cases e <;> rfl
  have hplan (st : Http.Connection σ × Journal) :
      (readPlan words env w st : Except Stop (Option Plan) × _).1 = .error (stopOf e) := by
    rw [readPlan, RuleReview.Stop.fst_bind, hread]
    rfl
  change (run words env w runner client (k, {})).1 = _
  rw [run, RuleReview.Stop.fst_bind, hplan]
  rfl

end Action

namespace Config

variable {σ : Type}

/-- A table gives a configuration, or is refused for the first thing that is wrong with it,
which is not always told as an error of the configuration; and so is a file. What is told that
way ends a command line with code 2 unless its words have tags, and always an action. A malformed
file is told in the words of who reads it, whichever these are. -/
theorem load_outcome (s : CommandLine.Setting σ) {token : Option String} {words : List String}
    {o : CommandLine.Order}
    (hwords : CommandLine.readWords s.workspace token words = some (.order o))
    {content : ByteArray} (hfile : s.workspace.readBytes (filePath o.project) = .ok content)
    (env : Action.Environment) (k : Http.Connection σ) :
    let told := (fileComplaints s.words (filePath o.project) content).head?
    (∀ project t e, ofTable project t = .error e ↔ (complaints t).head? = some e) ∧
    (∀ t f, .fault f ∈ complaints t ↔ Breaks t f) ∧
    (∀ e, load s.words s.workspace o.project = .error e ↔ told = some e) ∧
    (∀ f, .fault f ∈ fileComplaints s.words (filePath o.project) content ↔
      FileBreaks content f) ∧
    (∀ e, told = some e → (CommandLine.run s token words k).1.code = CommandLine.codeOf e) ∧
    (∀ e : Error, '[' ∉ e.message.toList → CommandLine.codeOf (.invalid e) = 2) ∧
    (o.project = s.workspace.root → ∀ e, told = some e →
      ((Action.run s.words env s.workspace s.runner s.client).outcome k).1 =
        .error (Action.stopOf e)) := by
  have hload := load_stopsFor s.words hfile
  refine ⟨ofTable_stopsFor, fun _ _ => fault_mem_complaints, hload,
    fun _ => fault_mem_fileComplaints, fun e he => ?_,
    fun _ => CommandLine.codeOf_of_notMem, fun hroot e he => ?_⟩
  · exact CommandLine.code_run_of_load hwords ((hload e).2 he) k
  · have herror := (hload e).2 he
    rw [hroot] at herror
    exact Action.run_of_load herror env s.runner s.client k

/-- What works on a directory that holds nothing but a configuration file. -/
def settingOf (content : ByteArray) : CommandLine.Setting Unit where
  workspace := ⟨Path.ofString "/ws", .directory [("pyproject.toml", .file content)]⟩
  input := ""
  width := 80
  runner := fun args _ => .ok ⟨args, 0, "", ""⟩
  client := ⟨fun _ _ => (.unreachable, ()), fun _ => (0, ())⟩
  nameOf := fun _ => ""
  words := fun _ => ""
  hasContext := true

/-- A file with a kind that is neither of the two. -/
def otherKind : ByteArray := "[tool.codesentry.rules.extra-kinds]\nt = \"x\"\n".toUTF8

/-- A kind that is neither of the two is told, and the runs end with code 2. -/
theorem load_outcome_otherKind :
    load (settingOf otherKind).words (settingOf otherKind).workspace (Path.ofString "/ws") =
        .error (.invalid (.kindUnknown "t")) ∧
      (CommandLine.run (settingOf otherKind) none ["rules"] ⟨(), []⟩).1.code = 2 ∧
      ((Action.run (settingOf otherKind).words [] (settingOf otherKind).workspace
        (settingOf otherKind).runner (settingOf otherKind).client).outcome ⟨(), []⟩).1 =
        .error (.exit 2) := by
  have hwords : CommandLine.readWords (settingOf otherKind).workspace none ["rules"] =
      some (.order ⟨.normal, Path.ofString "/ws", .rules "terminal"⟩) := by
    decide +kernel
  have hfile : (settingOf otherKind).workspace.readBytes (filePath (Path.ofString "/ws")) =
      .ok otherKind := Stop.eq_ok_of_toOption (by decide +kernel)
  have htold : (fileComplaints (settingOf otherKind).words (filePath (Path.ofString "/ws"))
      otherKind).head? = some (.invalid (.kindUnknown "t")) := by
    decide +kernel
  obtain ⟨-, -, hload, -, hcode, hplain, haction⟩ :=
    load_outcome (settingOf otherKind) hwords hfile [] ⟨(), []⟩
  exact ⟨(hload _).2 htold, (hcode _ htold).trans (hplain _ (by decide +kernel)),
    haction rfl _ htold⟩

def listForKind : Table := [("rules", .object [("extra", .object [("t", .text "x")]),
  ("extra-kinds", .object [("t", .list [.text "security"])])])]

def hugeRatio : Table := [("metrics", .object [("duplication-ratio", .integer (10 ^ 400))])]

/-- A file whose source has a name that closes a tag. -/
def nameWithTag : ByteArray := "[tool.codesentry.rules.extra]\n\"[/]\" = 1\n".toUTF8

/-- A list for a kind, a ratio past the floats and a file that is no text are not told as errors
of the configuration, and one that is told with a tag in it does not end with code 2. -/
theorem load_breaksOff :
    ofTable ⟨"", []⟩ listForKind = .error (.fault .wrongKind) ∧
      ofTable ⟨"", []⟩ hugeRatio = .error (.fault .integerTooLarge) ∧
      load id (settingOf ⟨#[0x23, 0xff]⟩).workspace (Path.ofString "/ws") =
        .error (.fault .undecodable) ∧
      load (settingOf nameWithTag).words (settingOf nameWithTag).workspace
        (Path.ofString "/ws") = .error (.invalid (.pathNotText "[/]")) ∧
      (CommandLine.run (settingOf nameWithTag) none ["rules"] ⟨(), []⟩).1.code = 1 := by
  have hwords : CommandLine.readWords (settingOf nameWithTag).workspace none ["rules"] =
      some (.order ⟨.normal, Path.ofString "/ws", .rules "terminal"⟩) := by
    decide +kernel
  have hbytes : (settingOf ⟨#[0x23, 0xff]⟩).workspace.readBytes (filePath (Path.ofString "/ws")) =
      .ok ⟨#[0x23, 0xff]⟩ := Stop.eq_ok_of_toOption (by decide +kernel)
  have htag : (settingOf nameWithTag).workspace.readBytes (filePath (Path.ofString "/ws")) =
      .ok nameWithTag := Stop.eq_ok_of_toOption (by decide +kernel)
  have hload : load (settingOf nameWithTag).words (settingOf nameWithTag).workspace
      (Path.ofString "/ws") = .error (.invalid (.pathNotText "[/]")) :=
    (load_stopsFor _ htag _).2 (by decide +kernel)
  refine ⟨(ofTable_stopsFor _ _ _).2 (by decide +kernel), (ofTable_stopsFor _ _ _).2
    (by decide +kernel), (load_stopsFor _ hbytes _).2 (by decide +kernel), hload, ?_⟩
  rw [CommandLine.code_run_of_load hwords hload]
  decide +kernel

end Config

end RuleReview
