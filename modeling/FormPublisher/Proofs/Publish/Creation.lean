import FormPublisher.Proofs.Form.References
import FormPublisher.Proofs.Json.Lexing
import FormPublisher.Proofs.Publish.Keys
import FormPublisher.Proofs.Publish.Update
import FormPublisher.Proofs.Request.Document
import FormPublisher.Publish.Create

/-!
# Making forms

A request to make a form ends in one of four ways (`Creates`): it has no key, its body is no
document, the document cannot be compiled, or one call asks the provider for the form.  Before this
call nothing is left behind, and what it sends is the payload of the document.

The reply to the call decides the outcome alone (`IsMade`): a failed one is the failure of the whole
request and keeps its status and its text, and an object tells the number and the address of the
form.  The only other replies are values that are no such object and texts that are JSON with a
literal or a nesting that is too large.
-/

namespace FormPublisher

/-! ### Replies -/

namespace Reply

/-- A reply that fails its call: an error status, a text that is no JSON, or no answer at all. -/
def Fails : Reply → Prop
  | response status body => isError status ∨ Json.read body = .error .malformed
  | fault => True

/-- A reply that fails its call leaves its status and text if the status is an error. -/
theorem fails_iff (r : Reply) :
    r.Fails ↔ r.answer = .error (.failed r.errorStatus? r.errorText?) := by
  cases r with
  | fault => exact iff_of_true trivial rfl
  | response status body =>
    unfold Fails answer errorStatus? errorText?
    by_cases hstatus : isError status = true
    · simp [hstatus]
    · simp only [hstatus, Bool.false_eq_true, if_false, false_or]
      cases Json.read body with
      | ok v => simp
      | error flaw => cases flaw <;> simp

end Reply

/-- A member of a reply that is an integer with too many digits, behind the number of a form. -/
theorem Json.read_long_member {n : Nat} (hn : Numeral.digitLimit < n) :
    Json.read ("\x7b\"content\": \x7b\"id\": \"9\"\x7d, \"n\": " ++
      String.ofList (List.replicate n '1') ++ "\x7d") = .error (.literal (.digits n)) := by
  obtain ⟨m, rfl⟩ : ∃ m, n = m + 1 := ⟨n - 1, by omega⟩
  -- The integer ends at the brace, and only then it is found to be too long.
  have hadvance : advance (.word (List.replicate (m + 1) '1')) '\x7d' =
      .error (.literal (.digits (m + 1))) := by
    have hends : endsWord '\x7d' = true := rfl
    rw [advance, hends, wordToken, List.reverse_replicate, readWord_replicate_one hn]
    rfl
  have hword : lexFrom (.word ['1']) (List.replicate m '1' ++ ['\x7d']) =
      { tokens := [], flaw := some (.literal (.digits (m + 1))) } := by
    rw [lexFrom_replicate_one, lexFrom, hadvance]
  have hlex (cs : List Char) :
      lex ("\x7b\"content\": \x7b\"id\": \"9\"\x7d, \"n\": ".toList ++ '1' :: cs) =
        (lexFrom (.word ['1']) cs).after [.openObject, .atom (.text "content"), .colon, .openObject,
          .atom (.text "id"), .colon, .atom (.text "9"), .closeObject, .comma, .atom (.text "n"),
          .colon] := rfl
  have htext : ("\x7b\"content\": \x7b\"id\": \"9\"\x7d, \"n\": " ++
      String.ofList (List.replicate (m + 1) '1') ++ "\x7d").toList =
        "\x7b\"content\": \x7b\"id\": \"9\"\x7d, \"n\": ".toList ++
          '1' :: (List.replicate m '1' ++ ['\x7d']) := by
    simp [String.toList_append, List.replicate_succ]
  rw [read, readWithin, htext, hlex, hword]
  rfl

theorem Reply.answer_of_long_member {n : Nat} (hn : Numeral.digitLimit < n) :
    (Reply.response 200 ("\x7b\"content\": \x7b\"id\": \"9\"\x7d, \"n\": " ++
      String.ofList (List.replicate n '1') ++ "\x7d")).answer =
        .error (.unreadable (.digits n)) :=
  answer_of_literal rfl (Json.read_long_member hn)

/-! ### Calls -/

/-- What becomes of the reply to the call for a form. -/
def creationOutcome (r : Reply) : Except Fault Created :=
  match r.answer with
  | .ok v => (Created.ofReply v).mapError .misuse
  | .error (.failed status body) => .error (.provider ⟨.createForm, status, body⟩)
  | .error (.unreadable cause) => .error (.literal cause)

/-- The outcome of a request to make a form, as far as the reply to its call tells it. -/
structure IsMade (r : Reply) (out : Except Fault Created) : Prop where
  /-- Only a reply that fails its call makes the provider fail. -/
  failed_iff : (∃ e, out = .error (.provider e)) ↔ r.Fails
  /-- The failure has the status and the text of the reply, or neither. -/
  failure : ∀ e, out = .error (.provider e) →
    e.message = "Failed to create form" ∧ e.status = r.errorStatus? ∧ e.body = r.errorText?
  /-- An object whose content is an object or does not count tells of the form. -/
  made : ∀ (status : Int) (text : String) (reply content : Entries),
    r = .response status text → Reply.isError status = false → Json.read text = .ok (.map reply) →
    (reply.get "content" = .map content ∨ (reply.get "content").isTruthy = false ∧ content = []) →
    out = .ok { formId := content.get "id", formUrl := content.get "url", data := .map reply }
  /-- Any other value that is no such object cannot be taken. -/
  unfit : ∀ v e, r.answer = .ok v → Created.ofReply v = .error e → out = .error (.misuse e)
  /-- A text that cannot be taken in is an error of its own. -/
  unreadable : ∀ cause, r.answer = .error (.unreadable cause) → out = .error (.literal cause)

theorem Created.ofReply_map {reply content : Entries}
    (h : reply.get "content" = .map content ∨
      (reply.get "content").isTruthy = false ∧ content = []) :
    ofReply (.map reply) =
      .ok { formId := content.get "id", formUrl := content.get "url", data := .map reply } := by
  have hcontent : ((reply.get "content").present?).getD (.map []) = .map content := by
    unfold Value.present?
    rcases h with h | ⟨h, rfl⟩
    · rw [h]
      cases content <;> rfl
    · simp [h]
  have hmember : (Value.map reply).member "content" = .ok (reply.get "content") := rfl
  rw [ofReply, hmember, ok_bind]
  dsimp only
  rw [hcontent]
  rfl

/-- The provider is blamed exactly for a reply that fails its call. -/
theorem creationOutcome_eq_provider_iff {r : Reply} {e : ProviderError} :
    creationOutcome r = .error (.provider e) ↔
      r.Fails ∧ e = ⟨.createForm, r.errorStatus?, r.errorText?⟩ := by
  rw [r.fails_iff, creationOutcome]
  rcases r.answer_cases with ⟨v, hr⟩ | hr | ⟨cause, hr⟩
  · cases h : Created.ofReply v <;> simp [hr, h]
  · simp [hr, eq_comm]
  · simp [hr]

theorem isMade_creationOutcome (r : Reply) : IsMade r (creationOutcome r) where
  failed_iff :=
    ⟨fun ⟨_, he⟩ => (creationOutcome_eq_provider_iff.mp he).1,
      fun h => ⟨_, creationOutcome_eq_provider_iff.mpr ⟨h, rfl⟩⟩⟩
  failure := by
    intro e he
    obtain ⟨-, rfl⟩ := creationOutcome_eq_provider_iff.mp he
    exact ⟨rfl, rfl, rfl⟩
  made := by
    rintro status text reply content rfl hstatus hread hcontent
    rw [creationOutcome, Reply.answer_of_read hstatus hread]
    dsimp only
    rw [Created.ofReply_map hcontent, mapError_ok]
  unfit := by
    intro v e hanswer h
    rw [creationOutcome, hanswer]
    dsimp only
    rw [h, mapError_error]
  unreadable := by
    intro cause h
    rw [creationOutcome, h]

namespace Publisher

/-- The call that asks for a form. -/
def creationCall (p : Publisher) (key payload : Value) : Call where
  method := .put
  url := trimSlashes p.apiUrl ++ "/form"
  apiKey := key
  timeout := p.timeout
  body := .json payload

/-- The ways in which a request to make a form ends, given its body and the session before it. -/
inductive Creates (p : Publisher) (body : Value) (s : Session) :
    Except Fault Created × Session → Prop
  | noKey (hkey : (keyFor p.configuredKey body).isTruthy = false) :
    Creates p body s (.error (.rejected .noKey), s)
  | unread {fault : Fault} (hkey : (keyFor p.configuredKey body).isTruthy)
    (hread : Document.read body = .error fault)
    (hfault : body.isJson → ∃ cause, fault = .rejected cause) :
    Creates p body s (.error fault, s)
  | uncompiled {d : Document} {e : Misuse} (hkey : (keyFor p.configuredKey body).isTruthy)
    (hread : Document.read body = .ok d) (hcompile : d.compile = .error e) :
    Creates p body s (.error (.misuse e), s)
  | called {d : Document} {form : CompiledForm} {payload : Payload} {ids : IdSupply}
    {out : Except Fault Created} (hkey : (keyFor p.configuredKey body).isTruthy)
    (hread : Document.read body = .ok d) (hcompile : d.compile = .ok form)
    (hassemble : (d.assemble form).run.run s.ids = (.ok payload, ids))
    (hout : IsMade (s.reply 0) out) :
    Creates p body s (out,
      ({ s with ids }.opened (keyFor p.configuredKey body)).after
        [p.creationCall (keyFor p.configuredKey body) payload.toValue])

end Publisher

/-! ### Payloads -/

namespace Document

theorem run_payload_of_error {d : Document} {e : Misuse} (h : d.compile = .error e)
    (ids : IdSupply) : d.payload.run.run ids = (.error e, ids) := by
  unfold payload
  rw [h]
  rfl

theorem run_payload_of_ok {d : Document} {form : CompiledForm} (h : d.compile = .ok form)
    (ids : IdSupply) : d.payload.run.run ids = (d.assemble form).run.run ids := by
  unfold payload
  rw [h]
  rfl

/-- A document that can be compiled can be put into a payload. -/
theorem exists_run_assemble {d : Document} {form : CompiledForm} (h : d.compile = .ok form)
    (ids : IdSupply) :
    ∃ payload ids', (d.assemble form).run.run ids = (.ok payload, ids') := by
  obtain ⟨-, -, rfl⟩ := compile_eq_ok_iff.mp h
  have hconditions : ∀ c ∈ d.compiledForm.conditions, c.IsJson := fun c hc =>
    (Condition.isJson_and_isPlain_of_mem_derive hc).1
  obtain ⟨payload, ids', hrun, -⟩ := gives_assemble d.compiledForm hconditions ids
  exact ⟨payload, ids', hrun⟩

end Document

/-! ### Requests -/

namespace Publisher

/-- A document that cannot be compiled opens no client. -/
theorem exec_createForm_of_error {p : Publisher} {d : Document} {key : Value} {e : Misuse}
    (hkey : resolveKey d.apiKey p.configuredKey = .ok key) (h : d.compile = .error e)
    (s : Session) : (p.createForm d).exec s = (.error (.misuse e), s) := by
  have hdraw : (Session.drawing d.payload).exec s = (.error (.misuse e), s) := by
    rw [Run.exec_drawing, Document.run_payload_of_error h]
    rfl
  unfold createForm
  rw [Run.exec_bind_ok (Run.exec_accepted_of_ok hkey s), Run.exec_bind_error hdraw]

/-- The call for a form, and what becomes of its reply. -/
theorem exec_creation (p : Publisher) (key payload : Value) (s : Session) :
    Run.exec (do
        let reply ← during .createForm ((p.client key).createForm payload)
        Session.checked (Created.ofReply reply)) s =
      (creationOutcome (s.reply 0), s.after [p.creationCall key payload]) := by
  have hcall : (during .createForm ((p.client key).createForm payload)).exec s =
      (blame .createForm (Client.outcome (.createForm payload) (s.reply 0)),
        s.after [p.creationCall key payload]) := by
    rw [exec_during, Client.createForm, Client.exec_send]
    rfl
  rw [Run.exec_bind, hcall, Client.outcome, creationOutcome]
  rcases (s.reply 0).answer_cases with ⟨v, hr⟩ | hr | ⟨cause, hr⟩
  all_goals
    rw [hr]
    rfl

/-- A document that has a payload makes one call, whose reply decides the outcome. -/
theorem exec_createForm_of_ok {p : Publisher} {d : Document} {key : Value} {payload : Payload}
    {s : Session} {ids : IdSupply} (hkey : resolveKey d.apiKey p.configuredKey = .ok key)
    (h : d.payload.run.run s.ids = (.ok payload, ids)) :
    (p.createForm d).exec s =
      (creationOutcome (s.reply 0),
        ({ s with ids }.opened key).after [p.creationCall key payload.toValue]) := by
  have hdraw : (Session.drawing d.payload).exec s = (.ok payload, { s with ids }) := by
    rw [Run.exec_drawing, h]
    rfl
  have hopen (s' : Session) : (p.openClient key).exec s' = (.ok (p.client key), s'.opened key) :=
    rfl
  unfold createForm
  rw [Run.exec_bind_ok (Run.exec_accepted_of_ok hkey s), Run.exec_bind_ok hdraw,
    Run.exec_bind_ok (hopen _), exec_creation]
  rfl

/-- With a key, a document cannot be compiled and nothing is left behind, or its payload is sent in
one call. -/
theorem exec_createForm_cases (p : Publisher) {d : Document} {key : Value}
    (hkey : resolveKey d.apiKey p.configuredKey = .ok key) (s : Session) :
    (∃ e, d.compile = .error e ∧ (p.createForm d).exec s = (.error (.misuse e), s)) ∨
      ∃ form payload ids, d.compile = .ok form ∧
        (d.assemble form).run.run s.ids = (.ok payload, ids) ∧
        (p.createForm d).exec s =
          (creationOutcome (s.reply 0),
            ({ s with ids }.opened key).after [p.creationCall key payload.toValue]) := by
  cases hcompile : d.compile with
  | error e => exact Or.inl ⟨e, rfl, exec_createForm_of_error hkey hcompile s⟩
  | ok form =>
    obtain ⟨payload, ids, hassemble⟩ := Document.exists_run_assemble hcompile s.ids
    have hpayload := (Document.run_payload_of_ok hcompile s.ids).trans hassemble
    exact Or.inr ⟨form, payload, ids, rfl, hassemble, exec_createForm_of_ok hkey hpayload⟩

/-- The key of a document that is read out of a body is the key for the body. -/
theorem resolveKey_of_read {body : Value} {d : Document} (hread : Document.read body = .ok d)
    {configured : Value} (hkey : (keyFor configured body).isTruthy) :
    resolveKey d.apiKey configured = .ok (keyFor configured body) := by
  rw [Document.apiKey_of_read hread, resolveKey_bodyKey, if_pos hkey]

/-- A request with a key whose body is a document makes the form of this document. -/
theorem exec_createFromBody_eq (p : Publisher) (body : Value) (s : Session) :
    (p.createFromBody body).exec s =
      if (keyFor p.configuredKey body).isTruthy then
        match Document.read body with
        | .error fault => (.error fault, s)
        | .ok d => (p.createForm d).exec s
      else (.error (.rejected .noKey), s) := by
  unfold createFromBody
  rw [resolveKey_bodyKey]
  by_cases hkey : (keyFor p.configuredKey body).isTruthy = true
  · rw [if_pos hkey, if_pos hkey]
    cases Document.read body with
    | error fault => rfl
    | ok d => rfl
  · rw [if_neg hkey, if_neg hkey]
    rfl

/-- A request to make a form ends without a key, without a document or without a compiled form and
leaves nothing behind, or with one call that sends the payload of the document and whose reply
decides the outcome. -/
theorem createFromBody_creates (p : Publisher) (body : Value) (s : Session) :
    Creates p body s ((p.createFromBody body).exec s) := by
  rw [exec_createFromBody_eq]
  cases hkey : (keyFor p.configuredKey body).isTruthy with
  | false => exact .noKey hkey
  | true =>
    rw [if_pos rfl]
    cases hread : Document.read body with
    | error fault =>
      exact .unread hkey hread fun hbody => Document.onlyRejects_read hbody fault hread
    | ok d =>
      rcases p.exec_createForm_cases (resolveKey_of_read hread hkey) s with
        ⟨e, hcompile, hexec⟩ | ⟨form, payload, ids, hcompile, hassemble, hexec⟩
      · dsimp only
        rw [hexec]
        exact .uncompiled hkey hread hcompile
      · dsimp only
        rw [hexec]
        exact .called hkey hread hcompile hassemble (isMade_creationOutcome _)

/-- A form is made, but an integer in the reply that is too long keeps its number from being
told. -/
theorem createFromBody_of_long_integer :
    let p : Publisher := {}
    let body : Value := .object [("apiKey", .text "k")]
    let reply := "\x7b\"content\": \x7b\"id\": \"9\"\x7d, \"n\": " ++
      String.ofList (List.replicate 4301 '1') ++ "\x7d"
    let s : Session := { replies := [.response 200 reply] }
    ((p.createFromBody body).exec s).1 = .error (.literal (.digits 4301)) ∧
      ((p.createFromBody body).exec s).2.calls.map (fun c => (c.method.name, c.url)) =
        [("PUT", "https://api.jotform.com/form")] := by
  intro p body
  have hread : Document.read body = .ok { apiKey := some (.text "k") } := rfl
  obtain ⟨form, hcompile⟩ :
      ∃ form, Document.compile { apiKey := some (.text "k") } = .ok form := ⟨_, rfl⟩
  have hrun (r : Reply) (cause : LiteralError) (hr : r.answer = .error (.unreadable cause)) :
      ((p.createFromBody body).exec { replies := [r] }).1 = .error (.literal cause) ∧
        ((p.createFromBody body).exec { replies := [r] }).2.calls.map
          (fun c => (c.method.name, c.url)) = [("PUT", "https://api.jotform.com/form")] := by
    obtain ⟨payload, ids, hassemble⟩ := Document.exists_run_assemble hcompile .counting
    have hpayload := (Document.run_payload_of_ok hcompile _).trans hassemble
    have hkey : (keyFor p.configuredKey body).isTruthy = true := rfl
    rw [exec_createFromBody_eq, if_pos hkey, hread]
    dsimp only
    rw [exec_createForm_of_ok rfl hpayload, creationOutcome]
    have hreply : Session.reply { replies := [r] } 0 = r := rfl
    rw [hreply, hr]
    refine ⟨rfl, ?_⟩
    show [("PUT", trimSlashes defaultApiUrl ++ "/form")] = _
    decide
  exact hrun _ _ (Reply.answer_of_long_member (by decide))

end Publisher

end FormPublisher
