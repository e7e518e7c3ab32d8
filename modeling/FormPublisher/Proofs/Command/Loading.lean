import FormPublisher.Proofs.Command.Preview
import FormPublisher.Proofs.File.LineEnds
import FormPublisher.Proofs.Json.Flaws

/-!
# Files that cannot be loaded

A file may be missing, its text may break the rules of its notation, or the value at its top may be
no mapping.  These are the errors of configuration (`IsMisconfigured`), and every command reports
them alike.

A load can end in other ways as well (`Escapes`): what the path leads to is no file, its bytes are no
text, or a literal in its text has no value although the notation is kept.  None of these faults is
reported.  There are no more ways for a load to end, whatever the path and the bytes
(`loadMapping_cases`), so a load is orderly exactly when no fault escapes (`Command.run_endsLoad`).
-/

namespace FormPublisher

/-- A path that leads to no configuration, and the error that says so. -/
inductive IsMisconfigured (path : Path) : Option FileEntry → FileError → Prop
  | missing : IsMisconfigured path none (.notFound path.toString)
  | malformed {t : String} (h : parse path.name t = .error .malformed) :
    IsMisconfigured path (some (.file (utf8Bytes t))) (.malformed path.name)
  | notMapping {t : String} {v : Value} (h : parse path.name t = .ok v)
    (hv : ∀ es, v.opened ≠ .map es) :
    IsMisconfigured path (some (.file (utf8Bytes t))) (.notMapping path.name)

/-- A path whose load ends in a fault that is no error of configuration. -/
inductive Escapes (path : Path) : Option FileEntry → Fault → Prop
  | directory : Escapes path (some .directory) (.file .isDirectory)
  | tooLong : Escapes path (some .tooLong) (.file (.tooLong path.toString))
  | undecodable {bytes : List UInt8} (h : ∀ t, utf8Bytes t ≠ bytes) :
    Escapes path (some (.file bytes)) (.file .undecodable)
  | literal {t : String} {cause : LiteralError} (h : parse path.name t = .error (.literal cause)) :
    Escapes path (some (.file (utf8Bytes t))) (.literal cause)

/-! ### Loads -/

section Loads

variable {path : Path} {entry : Option FileEntry}

theorem loadMapping_of_isMisconfigured {cause : FileError} (h : IsMisconfigured path entry cause) :
    loadMapping path entry = .error (.file cause) := by
  cases h with
  | missing => rfl
  | malformed h =>
    rw [loadMapping_utf8Bytes, h]
    rfl
  | @notMapping t v h hv =>
    rw [loadMapping_utf8Bytes, h, map_ok]
    cases hopened : v.opened with
    | map es => exact absurd hopened (hv es)
    | _ => rfl

theorem loadMapping_of_escapes {fault : Fault} (h : Escapes path entry fault) :
    loadMapping path entry = .error fault := by
  cases h with
  | directory => rfl
  | tooLong => rfl
  | undecodable h =>
    have hdecode := decodeFile_eq_error_iff.mpr ⟨rfl, h⟩
    rw [loadMapping, hdecode]
    rfl
  | literal h =>
    rw [loadMapping_utf8Bytes, h]
    rfl

theorem loadMapping_utf8Bytes_cases (path : Path) (t : String) :
    let entry := some (FileEntry.file (utf8Bytes t))
    (∃ es, loadMapping path entry = .ok es) ∨ (∃ cause, IsMisconfigured path entry cause) ∨
      ∃ fault, Escapes path entry fault := by
  intro entry
  cases h : parse path.name t with
  | error flaw =>
    cases flaw with
    | malformed => exact .inr (.inl ⟨_, .malformed h⟩)
    | literal cause => exact .inr (.inr ⟨_, .literal h⟩)
  | ok v =>
    by_cases hv : ∃ es, v.opened = .map es
    · obtain ⟨es, hes⟩ := hv
      refine .inl ⟨es, ?_⟩
      rw [loadMapping_utf8Bytes, h, map_ok, hes]
      rfl
    · exact .inr (.inl ⟨_, .notMapping h (not_exists.mp hv)⟩)

/-- A load gives a mapping, or it ends in an error of configuration or in another fault. -/
theorem loadMapping_cases (path : Path) (entry : Option FileEntry) :
    (∃ es, loadMapping path entry = .ok es) ∨ (∃ cause, IsMisconfigured path entry cause) ∨
      ∃ fault, Escapes path entry fault := by
  rcases entry with _ | bytes | _ | _
  · exact .inr (.inl ⟨_, .missing⟩)
  · by_cases hbytes : ∃ t, utf8Bytes t = bytes
    · obtain ⟨t, rfl⟩ := hbytes
      exact loadMapping_utf8Bytes_cases path t
    · exact .inr (.inr ⟨_, .undecodable (not_exists.mp hbytes)⟩)
  · exact .inr (.inr ⟨_, .directory⟩)
  · exact .inr (.inr ⟨_, .tooLong⟩)

end Loads

/-! ### Reports -/

/-- The report on an error of configuration: one line, and the exit code of a failure. -/
def Report.ofMisconfiguration (cause : FileError) : Report where
  exit := 1
  output := ""
  errors := "Error: " ++ cause.message ++ "\n"

section Reports

variable {path : Path} {entry : Option FileEntry}

theorem IsMisconfigured.ofFault? {cause : FileError} (h : IsMisconfigured path entry cause) :
    Report.ofFault? (.file cause) = some (Report.ofMisconfiguration cause) := by
  have hfailure : Report.ofFault?.failure cause.message "" = Report.ofMisconfiguration cause := by
    rw [Report.ofFault?.failure, Report.ofMisconfiguration, String.append_empty]
  cases h with
  | missing => exact congrArg some hfailure
  | malformed => exact congrArg some hfailure
  | notMapping => exact congrArg some hfailure

theorem Escapes.ofFault? {fault : Fault} (h : Escapes path entry fault) :
    Report.ofFault? fault = none := by
  cases h with
  | directory => rfl
  | tooLong => rfl
  | undecodable => rfl
  | literal => rfl

/-- What is reported does not escape. -/
theorem IsMisconfigured.not_escapes {cause : FileError} {fault : Fault}
    (hcause : IsMisconfigured path entry cause) : ¬ Escapes path entry fault := by
  intro hfault
  -- a load ends in one fault only, and the two kinds are told apart by what is reported
  have hsame : (.error (.file cause) : Except Fault Entries) = .error fault :=
    (loadMapping_of_isMisconfigured hcause).symm.trans (loadMapping_of_escapes hfault)
  have hreport := hcause.ofFault?
  rw [Except.error.inj hsame, hfault.ofFault?] at hreport
  cases hreport

end Reports

namespace Command

variable {settings : Settings} {path : Path} {entry : Option FileEntry} {s : Session}

/-! ### Runs -/

/-- Every command loads its file first. -/
theorem exec_value_of_not_loaded {fault : Fault} (h : loadMapping path entry = .error fault)
    (c : Command) (settings : Settings) (s : Session) :
    (c.value settings path entry).exec s = (.error fault, s) := by
  have hdocument : loadDocument path entry = .error fault := by
    rw [loadDocument, h]
    rfl
  cases c with
  | compile => exact exec_value_of_unloaded (by decide) hdocument settings s
  | create => exact exec_value_of_unloaded (by decide) hdocument settings s
  | update =>
    have hrequest : loadUpdate path entry = .error fault := by
      rw [loadUpdate, h]
      rfl
    unfold value
    rw [hrequest]
    rfl

/-- A fault is reported or left as it is. -/
theorem exec_run_of_error {c : Command} {fault : Fault} {s' : Session}
    (h : (c.value settings path entry).exec s = (.error fault, s')) :
    (c.run settings (some path) entry).exec s =
      ((match Report.ofFault? fault with
        | some report => .ok report
        | none => .error fault), s') := by
  have hvalue : (c.value settings path entry).run.run s = (.error fault, s') := h
  unfold Command.run Run.exec
  rw [ExceptT.run_mk, StateT.run_bind, hvalue]
  show StateT.run (match Report.ofFault? fault with
    | some report => (pure (.ok report) : StateM Session (Except Fault Report))
    | none => pure (.error fault)) s' = _
  cases Report.ofFault? fault with
  | none => rfl
  | some report => rfl

/-- The ways in which a load ends, and with it the run of a command. -/
structure EndsLoad (path : Path) (entry : Option FileEntry) (s : Session)
    (loaded : Except Fault Entries) (ran : Except Fault Report × Session) : Prop where
  /-- A load gives a mapping or an error of configuration, unless a fault escapes. -/
  orderly : ((∃ es, loaded = .ok es) ∨
      ∃ cause, IsMisconfigured path entry cause ∧ loaded = .error (.file cause)) ↔
    ¬ ∃ fault, Escapes path entry fault
  /-- An error of configuration is reported in one line, with the exit code 1, and the session stays
  as it was. -/
  reported : ∀ cause, IsMisconfigured path entry cause →
    loaded = .error (.file cause) ∧
      ran = (.ok { exit := 1, output := "", errors := "Error: " ++ cause.message ++ "\n" }, s)
  /-- A fault that escapes is not reported. -/
  escaped : ∀ fault, Escapes path entry fault → loaded = .error fault ∧ ran = (.error fault, s)
  /-- What escapes from a text of JSON is an integer of too many digits, or a list or an object
  inside too many others. -/
  excess : isJsonName path.name → ∀ cause, Escapes path entry (.literal cause) →
    Json.IsFlaw (.literal cause)

/-- Whatever a path leads to, the load of a mapping from it ends in one of these ways, in every
command. -/
theorem run_endsLoad (c : Command) (settings : Settings) (path : Path) (entry : Option FileEntry)
    (s : Session) :
    EndsLoad path entry s (loadMapping path entry) ((c.run settings (some path) entry).exec s) where
  orderly := by
    constructor
    · rintro (⟨es, hes⟩ | ⟨cause, hcause, -⟩) ⟨fault, hfault⟩
      · have hload := loadMapping_of_escapes hfault
        rw [hes] at hload
        cases hload
      · exact hcause.not_escapes hfault
    · intro h
      rcases loadMapping_cases path entry with hmapping | ⟨cause, hcause⟩ | hescapes
      · exact .inl hmapping
      · exact .inr ⟨cause, hcause, loadMapping_of_isMisconfigured hcause⟩
      · exact absurd hescapes h
  reported := by
    intro cause hcause
    have hload := loadMapping_of_isMisconfigured hcause
    refine ⟨hload, ?_⟩
    rw [exec_run_of_error (exec_value_of_not_loaded hload c settings s), hcause.ofFault?]
    rfl
  escaped := by
    intro fault hfault
    have hload := loadMapping_of_escapes hfault
    refine ⟨hload, ?_⟩
    rw [exec_run_of_error (exec_value_of_not_loaded hload c settings s), hfault.ofFault?]
  excess := by
    intro hname cause hcause
    cases hcause with
    | literal h =>
      rw [parse_of_json hname] at h
      exact Json.isFlaw_of_read h

/-- A text that stops in the middle of a list is reported with the name of its file. -/
theorem run_endsLoad_of_open_list :
    let path : Path := { parts := ["forms", "intake.json"] }
    let entry : Option FileEntry := some (.file (utf8Bytes "[1,"))
    (compile.run {} (some path) entry).exec {} =
      (.ok {
        exit := 1
        output := ""
        errors := "Error: " ++ (FileError.malformed "intake.json").message ++ "\n" }, {}) := by
  intro path entry
  have hname : isJsonName path.name = true := by decide
  have hread : Json.read "[1," = .error .malformed := rfl
  have hparse : parse path.name "[1," = .error .malformed := (parse_of_json hname _).trans hread
  have hcause : IsMisconfigured path entry (.malformed path.name) := .malformed hparse
  exact ((run_endsLoad compile {} path entry {}).reported _ hcause).2

/-- No text has the byte 255 in UTF-8.  A file that holds it has no mapping, and what is wrong with
it is not reported. -/
theorem run_of_undecodable_file :
    let path : Path := { parts := ["f.yml"] }
    let entry : Option FileEntry := some (.file [0xFF])
    loadMapping path entry = .error (.file .undecodable) ∧
      (compile.run {} (some path) entry).exec {} = (.error (.file .undecodable), {}) ∧
      ∀ cause, ¬ IsMisconfigured path entry cause := by
  intro path entry
  have hbytes : ∀ t, utf8Bytes t ≠ [0xFF] := by
    intro t ht
    have hhead : (utf8Bytes t).head? = some 0xFF := by
      rw [ht]
      rfl
    exact absurd (toNat_lt_of_head?_utf8Bytes hhead) (by decide)
  have hescapes : Escapes path entry (.file .undecodable) := .undecodable hbytes
  have hload := loadMapping_of_escapes hescapes
  refine ⟨hload, ?_, fun cause hcause => hcause.not_escapes hescapes⟩
  rw [exec_run_of_error (exec_value_of_not_loaded hload compile {} {}), hescapes.ofFault?]

end Command

end FormPublisher
