import RuleReview.Linter.Run
import RuleReview.Proofs.Decimal.Integer
import RuleReview.Proofs.Stop

/-! Reading what linters print. What stops it is told in the order of reading. All of it is
handled but for a column that is infinite and JSON that is nested too deep, and of findings that
are lines nothing else stops it. What is found names the linter it is of. -/

namespace RuleReview.Linter

open Stop (StopsFor stopsFor_ok stopsFor_error stopsFor_causes causes mem_causes)

variable {root : Path} {output : String} {f : Fault}

theorem isHandled_eq_false :
    isHandled f = false ↔ f = .infinityToInteger ∨ ∃ c, f = .tooDeepJson c := by
  cases f <;> simp [isHandled]

theorem fileName_eq_error {file : String} {e : Error} (h : fileName root file = .error e) :
    e = .fault .nulInLink := by
  rw [fileName] at h
  split at h
  next => exact (Except.error.inj h).symm
  next => cases h

/-! ### Findings written as JSON -/

namespace Eslint

/-- What stops the reading of a message. One without a line is passed over. -/
def messageStops (d : Data) : List Fault :=
  if lineOf (d.get? "line") = none then []
  else causes (orElse (d.get? "column") (.integer 1)).toInteger ++
    causes (severityOf (d.get? "severity"))

def fileStops (root : Path) (v : Json.Value) : List Error :=
  match (v.get? "filePath").bind Json.Value.letters?,
    (v.get? "messages").bind Json.Value.items? with
  | some ls, some messages =>
    causes (nameOf root ls) ++ ((messages.map Json.Value.mend).flatMap messageStops).map .fault
  | _, _ => []

def outputStops (root : Path) (output : String) : List Error :=
  match Json.parse (Text.lettersOf output) with
  | .error e => [.fault (.ofJson e)]
  | .ok (.list files) => files.flatMap (fileStops root)
  | .ok _ => [.notList]

theorem readMessage_stopsFor (d : Data) : StopsFor (readMessage d) (messageStops d) := by
  rw [readMessage, messageStops]
  cases hline : lineOf (d.get? "line") with
  | none => exact stopsFor_ok _
  | some line =>
    rw [if_neg nofun]
    exact (stopsFor_causes _).bind fun column _ => (stopsFor_causes _).pure _

theorem readMessages_stopsFor (file : String) (ds : List Data) :
    StopsFor (readMessages file ds) ((ds.flatMap messageStops).map .fault) := by
  induction ds with
  | nil => exact stopsFor_ok _
  | cons d ds ih =>
    rw [readMessages, List.flatMap_cons, List.map_append]
    refine ((readMessage_stopsFor d).mapError Error.fault).bind fun found _ => ?_
    cases found with
    | none => exact ih
    | some i => exact ih.pure _

theorem readFiles_stopsFor (root : Path) (vs : List Json.Value) :
    StopsFor (readFiles root vs) (vs.flatMap (fileStops root)) := by
  induction vs with
  | nil => exact stopsFor_ok _
  | cons v vs ih =>
    rw [readFiles, List.flatMap_cons, fileStops]
    generalize (v.get? "filePath").bind Json.Value.letters? = file
    generalize (v.get? "messages").bind Json.Value.items? = messages
    match file, messages with
    | some ls, some messages =>
      dsimp only
      rw [List.append_assoc]
      refine (stopsFor_causes (nameOf root ls)).bind fun name _ => ?_
      exact (readMessages_stopsFor name _).bind fun found _ => ih.pure _
    | some _, none | none, _ => exact ih

theorem read_stopsFor (root : Path) (output : String) :
    StopsFor (read root output) (outputStops root output) := by
  rw [read, outputStops]
  cases Json.parse (Text.lettersOf output) with
  | error e => exact stopsFor_error _ _
  | ok v =>
    cases v with
    | list files => exact readFiles_stopsFor root files
    | _ => exact stopsFor_error _ _

/-! What of this is not handled. -/

theorem toInteger_eq_error {d : Data} (h : d.toInteger = .error f) :
    isHandled f = true ∨ f = .infinityToInteger ∧ ∃ negative, d = .real (.infinity negative) := by
  cases d with
  | real x =>
    cases x with
    | infinity negative => exact .inr ⟨(Except.error.inj h).symm, negative, rfl⟩
    | notANumber => exact .inl (Except.error.inj h ▸ rfl)
    | _ => cases h
  | text s =>
    rw [Data.toInteger] at h
    cases hread : Decimal.readInteger s with
    | ok n => rw [hread] at h; cases h
    | error e =>
      rw [hread] at h
      cases e <;> exact .inl (Except.error.inj h ▸ rfl)
  | null | moment | list | object => exact .inl (Except.error.inj h ▸ rfl)
  | _ => cases h

theorem toInteger_eq_infinity {d : Data} :
    d.toInteger = .error .infinityToInteger ↔ ∃ negative, d = .real (.infinity negative) := by
  constructor
  · intro h
    rcases toInteger_eq_error h with hhandled | ⟨-, hinfinite⟩
    · cases hhandled
    · exact hinfinite
  · rintro ⟨negative, rfl⟩
    rfl

theorem orElse_eq_infinity {d : Option Data} {n : Int} {negative : Bool} :
    orElse d (.integer n) = .real (.infinity negative) ↔ d = some (.real (.infinity negative)) := by
  cases d with
  | none => simp [orElse]
  | some d =>
    rw [orElse, Option.some.injEq]
    split
    next => exact Iff.rfl
    next habsent =>
      refine iff_of_false nofun ?_
      rintro rfl
      exact habsent rfl

theorem severityOf_eq_error {d : Option Data} (h : severityOf d = .error f) : f = .wrongKind := by
  rw [severityOf.eq_def] at h
  split at h
  next => exact (Except.error.inj h).symm
  next => exact (Except.error.inj h).symm
  all_goals cases h

theorem infinity_mem_messageStops {d : Data} : .infinityToInteger ∈ messageStops d ↔
    lineOf (d.get? "line") ≠ none ∧
      ∃ negative, d.get? "column" = some (.real (.infinity negative)) := by
  have hseverity : severityOf (d.get? "severity") ≠ .error .infinityToInteger :=
    fun h => nomatch severityOf_eq_error h
  rw [messageStops, List.mem_ite_nil_left, List.mem_append, mem_causes, mem_causes,
    toInteger_eq_infinity]
  simp only [orElse_eq_infinity, hseverity, or_false, ne_eq]

theorem tooDeep_notMem_messageStops (d : Data) (c : Json.Container) :
    .tooDeepJson c ∉ messageStops d := by
  have hseverity : severityOf (d.get? "severity") ≠ .error (.tooDeepJson c) :=
    fun h => nomatch severityOf_eq_error h
  rw [messageStops, List.mem_ite_nil_left, List.mem_append, mem_causes, mem_causes]
  rintro ⟨-, h | h⟩
  · rcases toInteger_eq_error h with hhandled | ⟨hinfinity, -⟩
    · cases hhandled
    · cases hinfinity
  · exact hseverity h

theorem nameOf_eq_error {ls : List Text.Letter} {e : Error} (h : nameOf root ls = .error e) :
    e = .fault .unencodable ∨ e = .fault .nulInLink := by
  rw [nameOf] at h
  split at h
  next => exact .inl (Except.error.inj h).symm
  next => exact .inr (fileName_eq_error h)

theorem fault_mem_fileStops (henc : f ≠ .unencodable) (hnul : f ≠ .nulInLink) {v : Json.Value} :
    .fault f ∈ fileStops root v ↔ (∃ file, v.get? "filePath" = some (.text file)) ∧
      ∃ messages, v.get? "messages" = some (.list messages) ∧
        ∃ m ∈ messages, f ∈ messageStops m.mend := by
  have hname (ls : List Text.Letter) : Error.fault f ∉ causes (nameOf root ls) := fun h =>
    (nameOf_eq_error (mem_causes.1 h)).elim (fun he => henc (Error.fault.inj he))
      fun he => hnul (Error.fault.inj he)
  have htext (v : Json.Value) (ls : List Text.Letter) : v.letters? = some ls ↔ v = .text ls := by
    cases v <;> simp [Json.Value.letters?]
  have hitems (v : Json.Value) (messages : List Json.Value) :
      v.items? = some messages ↔ v = .list messages := by
    cases v <;> simp [Json.Value.items?]
  rw [fileStops]
  split
  next file messages hfile hmessages =>
    simp only [Option.bind_eq_some_iff, htext, hitems, exists_eq_right] at hfile hmessages
    simp [hfile, hmessages, hname]
  next hnone =>
    refine iff_of_false List.not_mem_nil ?_
    rintro ⟨⟨file, hfile⟩, messages, hmessages, -⟩
    exact hnone file messages (by rw [hfile]; rfl) (by rw [hmessages]; rfl)

/-- Whether an output is a list in which a message with a line has an infinite column. -/
def HasInfiniteColumn (output : String) : Prop :=
  ∃ files, Json.parse (Text.lettersOf output) = .ok (.list files) ∧
    ∃ v ∈ files, (∃ file, v.get? "filePath" = some (.text file)) ∧
      ∃ messages, v.get? "messages" = some (.list messages) ∧
        ∃ m ∈ messages, lineOf (m.mend.get? "line") ≠ none ∧
          ∃ negative, m.mend.get? "column" = some (.real (.infinity negative))

theorem infinity_mem_outputStops :
    .fault .infinityToInteger ∈ outputStops root output ↔ HasInfiniteColumn output := by
  rw [outputStops, HasInfiniteColumn]
  cases hread : Json.parse (Text.lettersOf output) with
  | error e => cases e <;> simp [Fault.ofJson]
  | ok v =>
    cases v with
    | list files =>
      simp [fault_mem_fileStops (f := .infinityToInteger) nofun nofun, infinity_mem_messageStops]
    | _ => simp

theorem tooDeep_mem_outputStops {c : Json.Container} :
    .fault (.tooDeepJson c) ∈ outputStops root output ↔
      Json.parse (Text.lettersOf output) = .error (.tooDeep c) := by
  rw [outputStops]
  cases hread : Json.parse (Text.lettersOf output) with
  | error e => cases e <;> simp [Fault.ofJson, eq_comm]
  | ok v =>
    cases v with
    | list files =>
      simp [fault_mem_fileStops (f := .tooDeepJson c) nofun nofun, tooDeep_notMem_messageStops]
    | _ => simp

end Eslint

/-! ### Findings written on lines -/

namespace Flake8

theorem readParts_eq_error {file : List Char} {t : Tail} {e : Error}
    (h : readParts root file t = .error e) : ∃ f, e = .fault f ∧ isHandled f = true := by
  have hnumber {ds : List Char} {e : Error} (h : readNumber ds = .error e) :
      ∃ f, e = .fault f ∧ isHandled f = true := by
    rw [readNumber] at h
    cases hdigits : Decimal.readDigits ds with
    | ok n => rw [hdigits] at h; cases h
    | error cause =>
      obtain ⟨-, rfl⟩ := Decimal.readDigits_eq_error_iff.1 hdigits
      rw [hdigits] at h
      exact ⟨_, (Except.error.inj h).symm, rfl⟩
  rw [readParts] at h
  rcases Stop.bind_eq_error.1 h with hname | ⟨name, -, h⟩
  · exact ⟨_, fileName_eq_error hname, rfl⟩
  rcases Stop.bind_eq_error.1 h with hline | ⟨line, -, h⟩
  · exact hnumber hline
  rcases Stop.bind_eq_error.1 h with hcolumn | ⟨column, -, h⟩
  · exact hnumber hcolumn
  · cases h

theorem readLines_eq_error {lines : List (List Char)} {e : Error}
    (h : readLines root lines = .error e) : ∃ f, e = .fault f ∧ isHandled f = true := by
  induction lines with
  | nil => cases h
  | cons cs rest ih =>
    rw [readLines] at h
    split at h
    next => exact ih h
    next =>
      rcases Stop.bind_eq_error.1 h with hparts | ⟨found, -, h⟩
      · exact readParts_eq_error hparts
      rcases Stop.bind_eq_error.1 h with hrest | ⟨found, -, h⟩
      · exact ih hrest
      · cases h

end Flake8

/-! ### What is found -/

theorem Eslint.source_of_readMessage {d : Data} {i : Issue}
    (h : (readMessage d).mapError Error.fault = .ok (some i)) : i.source = eslint.name := by
  cases hread : readMessage d with
  | error f => rw [hread] at h; cases h
  | ok found =>
    rw [hread] at h
    obtain rfl := Except.ok.inj h
    rw [readMessage] at hread
    split at hread
    next =>
      obtain ⟨column, -, hread⟩ := Stop.bind_eq_ok.1 hread
      obtain ⟨severity, -, hread⟩ := Stop.bind_eq_ok.1 hread
      cases hread
      rfl
    next => cases hread

theorem Eslint.source_of_mem_readMessages {file : String} {ds : List Data} {fs : Findings}
    (h : readMessages file ds = .ok fs) : ∀ p ∈ fs, p.2.source = eslint.name := by
  induction ds generalizing fs with
  | nil => cases h; exact fun _ hp => absurd hp List.not_mem_nil
  | cons d ds ih =>
    rw [readMessages] at h
    obtain ⟨found, hfound, h⟩ := Stop.bind_eq_ok.1 h
    cases found with
    | none => exact ih h
    | some i =>
      obtain ⟨rest, hrest, h⟩ := Stop.bind_eq_ok.1 h
      cases h
      exact List.forall_mem_cons.2 ⟨source_of_readMessage hfound, ih hrest⟩

theorem Eslint.source_of_mem_readFiles {vs : List Json.Value} {fs : Findings}
    (h : readFiles root vs = .ok fs) : ∀ p ∈ fs, p.2.source = eslint.name := by
  induction vs generalizing fs with
  | nil => cases h; exact fun _ hp => absurd hp List.not_mem_nil
  | cons v vs ih =>
    rw [readFiles] at h
    split at h
    next =>
      obtain ⟨name, -, h⟩ := Stop.bind_eq_ok.1 h
      obtain ⟨found, hfound, h⟩ := Stop.bind_eq_ok.1 h
      obtain ⟨rest, hrest, h⟩ := Stop.bind_eq_ok.1 h
      cases h
      exact List.forall_mem_append.2 ⟨source_of_mem_readMessages hfound, ih hrest⟩
    next => exact ih h

theorem Flake8.source_of_readParts {file : List Char} {t : Tail} {p : String × Issue}
    (h : readParts root file t = .ok p) : p.2.source = flake8.name := by
  rw [readParts] at h
  obtain ⟨name, -, h⟩ := Stop.bind_eq_ok.1 h
  obtain ⟨line, -, h⟩ := Stop.bind_eq_ok.1 h
  obtain ⟨column, -, h⟩ := Stop.bind_eq_ok.1 h
  cases h
  rfl

theorem Flake8.source_of_mem_readLines {lines : List (List Char)} {fs : Findings}
    (h : readLines root lines = .ok fs) : ∀ p ∈ fs, p.2.source = flake8.name := by
  induction lines generalizing fs with
  | nil => cases h; exact fun _ hp => absurd hp List.not_mem_nil
  | cons cs lines ih =>
    rw [readLines] at h
    split at h
    next => exact ih h
    next =>
      obtain ⟨p, hp, h⟩ := Stop.bind_eq_ok.1 h
      obtain ⟨rest, hrest, h⟩ := Stop.bind_eq_ok.1 h
      cases h
      exact List.forall_mem_cons.2 ⟨source_of_readParts hp, ih hrest⟩

theorem source_of_mem_read {l : Linter} {fs : Findings} (h : l.read root output = .ok fs) :
    ∀ p ∈ fs, p.2.source = l.name := by
  cases l with
  | eslint =>
    change Eslint.read root output = .ok fs at h
    rw [Eslint.read] at h
    split at h
    next => cases h
    next => exact Eslint.source_of_mem_readFiles h
    next => cases h
  | flake8 => exact Flake8.source_of_mem_readLines h

end RuleReview.Linter
