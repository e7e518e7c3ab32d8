import FormPublisher.CommandLine
import FormPublisher.Proofs.Publish.Creation

/-!
# Looking at a form before it is made

The commands `compile` and `create` read a file and make the payload of its document in the same
way, drawing the same identifiers.  `compile_agrees` says that, given a key, they fail alike before
any call, or the one call of `create` sends what `compile` shows.  `compile` itself needs no key and
makes no call, whatever the settings.
-/

namespace FormPublisher

/-- A file from which no payload can be made, and why: its document cannot be loaded, or it cannot
be compiled. -/
inductive FailsToCompile (path : Path) (entry : Option FileEntry) : Fault → Prop
  | unloaded {fault : Fault} (h : loadDocument path entry = .error fault) :
    FailsToCompile path entry fault
  | uncompiled {d : Document} {e : Misuse} (h : loadDocument path entry = .ok d)
    (hcompile : d.compile = .error e) : FailsToCompile path entry (.misuse e)

/-- A document in a file of JSON. -/
theorem loadDocument_of_json {path : Path} {bytes : List UInt8} {text : String} {data : Entries}
    {d : Document} (hname : isJsonName path.name) (hdecode : decodeFile bytes = .ok text)
    (hread : Json.read text = .ok (.map data)) (hdata : Document.ofEntries data = .ok d) :
    loadDocument path (some (.file bytes)) = .ok d := by
  have hvalue : readConfiguration path.name text = .ok (.map data) := by
    rw [readConfiguration, hname, if_pos rfl, hread, mapError_ok]
  have hmapping : loadMapping path (some (.file bytes)) = .ok data := by
    rw [loadMapping, hdecode, mapError_ok, ok_bind, hvalue, ok_bind]
    rfl
  rw [loadDocument, hmapping, ok_bind, hdata]

namespace Command

variable {settings : Settings} {path : Path} {entry : Option FileEntry} {d : Document} {s : Session}

/-! ### Runs of the commands -/

theorem exec_value_of_unloaded {c : Command} (hc : c ≠ .update) {fault : Fault}
    (h : loadDocument path entry = .error fault) (settings : Settings) (s : Session) :
    (c.value settings path entry).exec s = (.error fault, s) := by
  cases c with
  | update => exact absurd rfl hc
  | _ =>
    unfold value
    rw [h]
    rfl

theorem exec_compile (h : loadDocument path entry = .ok d) :
    (compile.value settings path entry).exec s =
      (Payload.toValue <$> (d.payload.run.run s.ids).1.mapError .misuse,
        { s with ids := (d.payload.run.run s.ids).2 }) := by
  have hrun : compile.value settings path entry =
      (do return (← Session.drawing d.payload).toValue) := by
    unfold value
    rw [h]
    rfl
  rw [hrun, Run.exec_bind_pure, Run.exec_drawing]

theorem exec_create (h : loadDocument path entry = .ok d) :
    (create.value settings path entry).exec s =
      ((fun created => .object [("formId", created.formId), ("formUrl", created.formUrl)]) <$>
        ((settings.publisher.createForm d).exec s).1,
        ((settings.publisher.createForm d).exec s).2) := by
  have hrun : create.value settings path entry = (do
      let created ← settings.publisher.createForm d
      return .object [("formId", created.formId), ("formUrl", created.formUrl)]) := by
    unfold value
    rw [h]
    rfl
  rw [hrun, Run.exec_bind_pure]

/-! ### Compiling alone -/

/-- To compile a document is to draw identifiers, under any settings. -/
theorem exec_compile_frame (settings other : Settings) (path : Path) (entry : Option FileEntry)
    (s : Session) :
    ∃ ids, ((compile.value settings path entry).exec s).2 = { s with ids } ∧
      (compile.value other path entry).exec s = (compile.value settings path entry).exec s := by
  cases hload : loadDocument path entry with
  | error fault =>
    have hcompile := exec_value_of_unloaded (show compile ≠ .update by decide) hload
    rw [hcompile, hcompile]
    exact ⟨s.ids, rfl, rfl⟩
  | ok d =>
    rw [exec_compile hload, exec_compile hload]
    exact ⟨_, rfl, rfl⟩

/-! ### Compiling and creating -/

/-- What is compiled is what is sent.  To compile a file draws identifiers and does nothing else,
under any settings.  If a key is at hand for the document of the file, then to compile the file and
to create its form fail with the same fault, and nothing is left behind by the second; or the second
makes one call, which sends the payload that the first gives. -/
theorem compile_agrees (settings : Settings) (path : Path) (entry : Option FileEntry)
    {s t : Session} (hids : s.ids = t.ids) :
    (∀ other : Settings, ∃ ids,
      ((compile.value other path entry).exec s).2 = { s with ids } ∧
        (compile.value other path entry).exec s = (compile.value settings path entry).exec s) ∧
    ((∀ d, loadDocument path entry = .ok d →
        (∃ key, d.apiKey = some key ∧ key.isTruthy) ∨ settings.apiKey.isTruthy) →
      (∃ fault, FailsToCompile path entry fault ∧
        ((compile.value settings path entry).exec s).1 = .error fault ∧
        (create.value settings path entry).exec t = (.error fault, t)) ∨
      ∃ d key payload ids, loadDocument path entry = .ok d ∧
        resolveKey d.apiKey settings.apiKey = .ok key ∧
        (compile.value settings path entry).exec s = (.ok payload, { s with ids }) ∧
        ((create.value settings path entry).exec t).2 =
          ({ t with ids }.opened key).after [{
            method := .put
            url := trimSlashes settings.apiUrl ++ "/form"
            apiKey := key
            timeout := settings.timeout
            body := .json payload }]) := by
  constructor
  · intro other
    obtain ⟨ids, hsession, hsame⟩ := exec_compile_frame other settings path entry s
    exact ⟨ids, hsession, hsame.symm⟩
  intro hkey
  cases hload : loadDocument path entry with
  | error fault =>
    have hcompile := exec_value_of_unloaded (show compile ≠ .update by decide) hload settings s
    have hcreate := exec_value_of_unloaded (show create ≠ .update by decide) hload settings t
    exact Or.inl ⟨fault, .unloaded hload, by rw [hcompile], hcreate⟩
  | ok d =>
    obtain ⟨key, hresolve⟩ := exists_resolveKey_eq_ok_iff.mpr (hkey d hload)
    rw [exec_compile hload, exec_create hload, hids]
    rcases settings.publisher.exec_createForm_cases hresolve t with
      ⟨e, hform, hexec⟩ | ⟨form, payload, ids, hform, hassemble, hexec⟩
    · refine Or.inl ⟨.misuse e, .uncompiled hload hform, ?_, ?_⟩
      · rw [Document.run_payload_of_error hform]
        rfl
      · rw [hexec]
        rfl
    · -- Both runs draw from the same supply, so the payloads are the same value.
      refine Or.inr ⟨d, key, payload.toValue, ids, rfl, hresolve, ?_, ?_⟩
      · rw [Document.run_payload_of_ok hform, hassemble]
        rfl
      · rw [hexec]
        rfl

theorem compile_agrees_of_json_file :
    let settings : Settings := { apiUrl := "https://api.jotform.com//" }
    let path : Path := { parts := ["forms", "intake.json"] }
    let entry : Option FileEntry := some (.file "\x7b\"apiKey\": \"k\"\x7d".toUTF8.toList)
    ∃ payload ids, (compile.value settings path entry).exec {} = (.ok payload, { ids }) ∧
      ((create.value settings path entry).exec {}).2 = {
        ids
        calls := [{
          method := .put
          url := "https://api.jotform.com/form"
          apiKey := .text "k"
          timeout := .int 30
          body := .json payload }]
        clientKeys := [.text "k"] } := by
  intro settings path entry
  have hdecode : decodeFile "\x7b\"apiKey\": \"k\"\x7d".toUTF8.toList =
      .ok "\x7b\"apiKey\": \"k\"\x7d" := by decide +kernel
  have hread : Json.read "\x7b\"apiKey\": \"k\"\x7d" =
      .ok (.map [(.text "apiKey", .text "k")]) := rfl
  have hload : loadDocument path entry = .ok { apiKey := some (.text "k") } :=
    loadDocument_of_json (by decide) hdecode hread rfl
  have hform : ∃ form, Document.compile { apiKey := some (.text "k") } = .ok form := ⟨_, rfl⟩
  have hkey : ∀ d, loadDocument path entry = .ok d →
      (∃ key, d.apiKey = some key ∧ key.isTruthy) ∨ settings.apiKey.isTruthy := by
    intro d hd
    obtain rfl := Except.ok.inj (hload.symm.trans hd)
    exact Or.inl ⟨.text "k", rfl, rfl⟩
  have hurl : trimSlashes settings.apiUrl ++ "/form" = "https://api.jotform.com/form" := by decide
  rcases (compile_agrees settings path entry (s := {}) (t := {}) rfl).2 hkey with
    ⟨fault, hfails, -⟩ | ⟨d, key, payload, ids, hd, hresolve, hcompile, hcreate⟩
  · obtain ⟨form, hform⟩ := hform
    cases hfails with
    | unloaded h =>
      rw [hload] at h
      cases h
    | uncompiled h hcompile =>
      obtain rfl := Except.ok.inj (hload.symm.trans h)
      rw [hform] at hcompile
      cases hcompile
  · obtain rfl := Except.ok.inj (hload.symm.trans hd)
    obtain rfl := Except.ok.inj hresolve
    refine ⟨payload, ids, hcompile, ?_⟩
    rw [hcreate, hurl]
    rfl

end Command

end FormPublisher
