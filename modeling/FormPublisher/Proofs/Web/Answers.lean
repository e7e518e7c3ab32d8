import FormPublisher.Proofs.Json.Reader
import FormPublisher.Proofs.Publish.Creation
import FormPublisher.Proofs.Publish.Rejections
import FormPublisher.Web.Server

/-!
# Answers to requests to publish

The two pages that take a body answer for what carrying it out comes to, and the answer tells which
of four things this was (`WebAnswer.Tells`): a result, a request that was turned down before any
call, the failure of the last call with the status and the text of its reply, or anything else.
`Server.respond_tells` says so for every body, every settings and all replies.

What the runs behind the pages leave is said first (`Run.Settles`).
-/

namespace FormPublisher

variable {α : Type}

/-! ### How requests end -/

theorem Json.isJson_of_readBytes {bytes : List UInt8} {v : Value} (h : readBytes bytes = .ok v) :
    v.isJson := by
  unfold readBytes at h
  dsimp only at h
  split at h
  · exact isJson_of_read h
  · cases h

/-- What a fault tells of the calls of a run: there are none if the request is turned down, and the
provider is blamed for its reply to the last one. -/
def Fault.IsSettled (operation : Operation) (s s' : Session) : Fault → Prop
  | .rejected _ => s'.calls = s.calls
  | .provider e => e.operation = operation ∧ ∃ before last,
      s'.calls = s.calls ++ before ++ [last] ∧
      e.status = (s.reply before.length).errorStatus? ∧
      e.body = (s.reply before.length).errorText?
  | _ => True

/-- A run whose faults tell of its calls, whatever the session. -/
def Run.Settles (operation : Operation) (x : Run α) : Prop :=
  ∀ s fault, (x.exec s).1 = .error fault → fault.IsSettled operation s (x.exec s).2

/-- What is left past all checks is settled: the call that fails is the last of those made. -/
theorem Fault.IsLeftBy.isSettled {operation : Operation} {s s' : Session} {calls : List Call}
    {fault : Fault} (h : fault.IsLeftBy s calls) (hcalls : s'.calls = s.calls ++ calls)
    (hoperation : ∀ e, fault = .provider e → e.operation = operation) :
    fault.IsSettled operation s s' := by
  cases fault with
  | rejected cause => exact h.elim
  | provider e =>
    obtain ⟨n, hlength, hstatus, htext⟩ := h
    have hne : calls ≠ [] := List.ne_nil_of_length_eq_add_one hlength
    have hlast : calls.dropLast ++ [calls.getLast hne] = calls := List.dropLast_append_getLast hne
    have hbefore : calls.dropLast.length = n := by
      rw [List.length_dropLast, hlength, Nat.add_sub_cancel]
    refine ⟨hoperation e rfl, calls.dropLast, calls.getLast hne, ?_, ?_, ?_⟩
    · rw [hcalls, List.append_assoc, hlast]
    · rw [hstatus, hbefore]
    · rw [htext, hbefore]
  | _ => trivial

namespace Publisher

theorem settles_updateFromBody (p : Publisher) {body : Value} (hbody : body.isJson) :
    (p.updateFromBody body).Settles .updateForm := by
  intro s fault h
  rcases p.exec_updateFromBody_cases hbody s with
    ⟨cause, field, keys, -, hexec⟩ | ⟨x, hx, hexec⟩
  · rw [hexec] at h ⊢
    obtain rfl := Except.error.inj h
    exact rfl
  · obtain ⟨calls, hs, hfault⟩ := hx.during .updateForm (s.opened (keyFor p.configuredKey body))
    rw [hexec] at h ⊢
    refine Fault.IsLeftBy.isSettled (hfault fault h) hs.calls fun e he => ?_
    rw [exec_during, he] at h
    exact operation_of_blame h

theorem isLeftBy_creationOutcome {s : Session} {fault : Fault}
    (h : creationOutcome (s.reply 0) = .error fault) (call : Call) :
    fault.IsLeftBy s [call] := by
  cases fault with
  | provider e =>
    obtain ⟨-, rfl⟩ := creationOutcome_eq_provider_iff.mp h
    exact ⟨0, rfl, rfl, rfl⟩
  | rejected cause =>
    rw [creationOutcome] at h
    rcases (s.reply 0).answer_cases with ⟨v, hr⟩ | hr | ⟨_, hr⟩
    · rw [hr] at h
      cases hv : Created.ofReply v <;> simp [hv] at h
    · simp [hr] at h
    · simp [hr] at h
  | _ => trivial

theorem settles_createFromBody (p : Publisher) {body : Value} (hbody : body.isJson) :
    (p.createFromBody body).Settles .createForm := by
  intro s fault h
  rw [exec_createFromBody_eq] at h ⊢
  by_cases hkey : (keyFor p.configuredKey body).isTruthy = true
  · rw [if_pos hkey] at h ⊢
    cases hread : Document.read body with
    | error fault' =>
      obtain ⟨cause, rfl⟩ := Document.onlyRejects_read hbody fault' hread
      rw [hread] at h
      obtain rfl := Except.error.inj h
      exact rfl
    | ok d =>
      rw [hread] at h
      dsimp only at h ⊢
      rcases p.exec_createForm_cases (resolveKey_of_read hread hkey) s with
        ⟨e, -, hexec⟩ | ⟨form, payload, ids, -, -, hexec⟩
      · rw [hexec] at h ⊢
        obtain rfl := Except.error.inj h
        trivial
      · rw [hexec] at h ⊢
        refine Fault.IsLeftBy.isSettled (isLeftBy_creationOutcome h _) rfl fun e he => ?_
        rw [he] at h
        rw [(creationOutcome_eq_provider_iff.mp h).2]
  · rw [if_neg hkey] at h ⊢
    obtain rfl := Except.error.inj h
    exact rfl

end Publisher

/-! ### Answers -/

theorem Value.object_injective : Function.Injective Value.object := by
  intro fields others h
  have hinjective : Function.Injective fun f : String × Value => (Scalar.text f.1, f.2) := by
    intro f g h
    obtain ⟨hkey, hvalue⟩ := Prod.mk.inj h
    exact Prod.ext (Scalar.text.inj hkey) hvalue
  exact List.map_injective_iff.mpr hinjective (Value.map.inj h)

/-- The details in the body of an answer. -/
def WebBody.details? : WebBody → Option Value
  | .json (.map entries) => Entries.get? "details" entries
  | _ => none

namespace WebAnswer

/-- An answer tells what the body of a request came to, which is nothing if it is no JSON: `fields`
are the fields of an answer with a result, and `failure` is the failure of the whole. -/
structure Tells (fields : α → List (String × Value)) (failure : String) (s : Session)
    (out : Option (Except Fault α)) (s' : Session) (answer : WebAnswer) : Prop where
  /-- A result is told with success. -/
  result : ∀ r, out = some (.ok r) ↔
    answer = (200, .json (.object (("success", .bool true) :: fields r)))
  /-- A request that is turned down is told by the text of this error alone. -/
  rejected : ∀ text, (∃ cause, out = some (.error (.rejected cause)) ∧ cause.message = text) ↔
    answer = (400, .json (.object [("error", .text text)]))
  /-- A failure of the provider is told with its status and, as details, its text. -/
  failed : ∀ status text,
    (∃ e, out = some (.error (.provider e)) ∧ e.status = some status ∧ e.body = some text) ↔
      answer = (status, .json (.object [("error", .text failure), ("details", .text text)]))
  /-- The status of an error and the text come from the reply to the last call. -/
  blamed : ∀ e status, out = some (.error (.provider e)) → e.status = some status →
    ∃ text before last, e.body = some text ∧ s'.calls = s.calls ++ before ++ [last] ∧
      s.reply before.length = .response status text ∧ 400 ≤ status ∧ status < 600
  /-- All else is told as an internal error. -/
  other : (∃ message, answer = internal message) ↔
    (∀ r, out ≠ some (.ok r)) ∧ (∀ cause, out ≠ some (.error (.rejected cause))) ∧
      ∀ e status, out = some (.error (.provider e)) → e.status ≠ some status
  /-- No call is made if there is nothing to carry out or the request is turned down. -/
  uncalled : (out = none ∨ ∃ cause, out = some (.error (.rejected cause))) → s'.calls = s.calls
  /-- A status that the provider may have sent as well is told apart by the details. -/
  distinguished : answer.1 = 400 →
    ((∃ cause, out = some (.error (.rejected cause))) ↔ answer.2.details? = none)

/-- What the body of a request comes to, if it is JSON, and the session that is left. -/
def carriedOut (body : List UInt8) (carryOut : Value → Run α) (s : Session) :
    Option (Except Fault α) × Session :=
  match Json.readBytes body with
  | .ok v => (some ((carryOut v).exec s).1, ((carryOut v).exec s).2)
  | .error _ => (none, s)

/-- The answer for an outcome. -/
def ofOutcome (tell : α → WebAnswer) : Except Fault α → WebAnswer
  | .ok r => tell r
  | .error fault => ofFault fault

section Telling

variable {fields : α → List (String × Value)} {failure : String} {s s' : Session}

/-- A body that is no JSON. -/
theorem tells_of_unread (message : String) :
    Tells fields failure s (none : Option (Except Fault α)) s (internal message) where
  result := by simp [internal, Value.object]
  rejected := by simp [internal, Value.object]
  failed := by simp [internal, Value.object]
  blamed := by simp
  other := by simp
  uncalled := by simp
  distinguished := by simp [internal]

theorem tells_of_result (hfields : Function.Injective fields) (r : α) :
    Tells fields failure s (some (.ok r)) s'
      (200, .json (.object (("success", .bool true) :: fields r))) where
  result := by
    intro r'
    constructor
    · intro h
      obtain rfl := Except.ok.inj (Option.some.inj h)
      rfl
    · intro h
      have hbody := Value.object_injective (WebBody.json.inj (Prod.mk.inj h).2)
      rw [hfields (List.cons.inj hbody).2]
  rejected := by simp [Value.object]
  failed := by simp [Value.object]
  blamed := by simp
  other := by simp [internal, Value.object]
  uncalled := by simp
  distinguished := by simp

theorem tells_of_rejected (cause : Rejection) (hcalls : s'.calls = s.calls) :
    Tells fields failure s (some (.error (.rejected cause) : Except Fault α)) s'
      (ofFault (.rejected cause)) where
  result := by simp [ofFault, Value.object]
  rejected := by simp [ofFault, Value.object]
  failed := by simp [ofFault, Value.object]
  blamed := by simp
  other := by simp [ofFault, internal, Value.object]
  uncalled := fun _ => hcalls
  distinguished := by simp [ofFault, WebBody.details?, Value.object, Entries.get?]

theorem tells_of_failed {e : ProviderError} {status : Int} {text : String} {before : List Call}
    {last : Call} (hstatus : e.status = some status) (htext : e.body = some text)
    (hfailure : e.message = failure) (hcalls : s'.calls = s.calls ++ before ++ [last])
    (hreply : s.reply before.length = .response status text) (hlow : 400 ≤ status)
    (hhigh : status < 600) :
    Tells fields failure s (some (.error (.provider e) : Except Fault α)) s'
      (ofFault (.provider e)) where
  result := by simp [ofFault, hstatus, Value.object]
  rejected := by simp [ofFault, hstatus, Value.object]
  failed := by simp [ofFault, hstatus, htext, hfailure, Value.object, Value.ofText?]
  blamed := by
    rintro e' status' he hstatus'
    obtain rfl := Fault.provider.inj (Except.error.inj (Option.some.inj he))
    obtain rfl := Option.some.inj (hstatus.symm.trans hstatus')
    exact ⟨text, before, last, htext, hcalls, hreply, hlow, hhigh⟩
  other := by simp [ofFault, hstatus, internal, Value.object]
  uncalled := by simp
  distinguished := by simp [ofFault, hstatus, WebBody.details?, Value.object, Entries.get?]

/-- Every other fault, which includes the failure of the provider without a status. -/
theorem tells_of_other {fault : Fault} (hrejected : ∀ cause, fault ≠ .rejected cause)
    (hfailed : ∀ e status, fault = .provider e → e.status ≠ some status) :
    Tells fields failure s (some (.error fault : Except Fault α)) s' (ofFault fault) := by
  have hinternal : ofFault fault = internal fault.message := by
    cases fault with
    | rejected cause => exact absurd rfl (hrejected cause)
    | provider e =>
      have hstatus : e.status = none := Option.eq_none_iff_forall_ne_some.mpr fun status h =>
        hfailed e status rfl h
      simp [ofFault, hstatus, Fault.message]
    | _ => rfl
  rw [hinternal]
  exact {
    result := by simp [internal, Value.object]
    rejected := by simp [internal, Value.object, hrejected]
    failed := by
      intro status text
      refine iff_of_false ?_ (by simp [internal, Value.object])
      rintro ⟨e, he, hstatus, -⟩
      exact hfailed e status (Except.error.inj (Option.some.inj he)) hstatus
    blamed := by
      intro e status he hstatus
      exact absurd hstatus (hfailed e status (Except.error.inj (Option.some.inj he)))
    other := by
      refine iff_of_true ⟨fault.message, rfl⟩ ⟨by simp, by simp [hrejected], ?_⟩
      intro e status he
      exact hfailed e status (Except.error.inj (Option.some.inj he))
    uncalled := by simp [hrejected]
    distinguished := by simp [internal] }

/-- The answer for an outcome tells of it, if its faults are settled. -/
theorem tells_ofOutcome {operation : Operation} (hfields : Function.Injective fields)
    {tell : α → WebAnswer}
    (htell : ∀ r, tell r = (200, .json (.object (("success", .bool true) :: fields r))))
    (out : Except Fault α)
    (hsettled : ∀ fault, out = .error fault → fault.IsSettled operation s s') :
    Tells fields ("Failed to " ++ operation.describe) s (some out) s' (ofOutcome tell out) := by
  cases out with
  | ok r =>
    rw [ofOutcome, htell]
    exact tells_of_result hfields r
  | error fault =>
    have hfault := hsettled fault rfl
    rw [ofOutcome]
    cases fault with
    | rejected cause => exact tells_of_rejected cause hfault
    | provider e =>
      obtain ⟨rfl, before, last, hcalls, hstatus, htext⟩ := hfault
      cases h : (s.reply before.length).errorStatus? with
      | none =>
        rw [h] at hstatus
        refine tells_of_other (by simp) fun e' status he => ?_
        rw [← Fault.provider.inj he, hstatus]
        simp
      | some status =>
        obtain ⟨text, hreply, hlow, hhigh, herror⟩ := Reply.eq_response_of_errorStatus? h
        exact tells_of_failed (hstatus.trans h) (htext.trans herror) rfl hcalls hreply hlow hhigh
    | _ => exact tells_of_other (by simp) (by simp)

end Telling

/-- A body that is no JSON is an internal error. -/
theorem exists_ofFlaw_eq (flaw : Flaw) : ∃ message, ofFlaw flaw = internal message := by
  unfold ofFlaw
  split
  · exact ⟨_, rfl⟩
  · exact ⟨_, rfl⟩

/-- The answer for a body tells what it comes to, and the session is what carrying it out leaves. -/
theorem tells_ofBody {fields : α → List (String × Value)} {operation : Operation}
    (hfields : Function.Injective fields) (tell : α → WebAnswer)
    (htell : ∀ r, tell r = (200, .json (.object (("success", .bool true) :: fields r))))
    (body : List UInt8) {carryOut : Value → Run α}
    (hsettles : ∀ v, v.isJson → (carryOut v).Settles operation) (s : Session) :
    let out := carriedOut body carryOut s
    ((ofBody body carryOut tell).run s).2 = out.2 ∧
      Tells fields ("Failed to " ++ operation.describe) s out.1 out.2
        ((ofBody body carryOut tell).run s).1 := by
  intro out
  cases hread : Json.readBytes body with
  | error flaw =>
    have hout : out = (none, s) := by
      simp only [out, carriedOut, hread]
    have hrun : (ofBody body carryOut tell).run s = (ofFlaw flaw, s) := by
      unfold ofBody
      rw [hread]
      rfl
    obtain ⟨message, hmessage⟩ := exists_ofFlaw_eq flaw
    rw [hout, hrun, hmessage]
    exact ⟨rfl, tells_of_unread message⟩
  | ok v =>
    have hout : out = (some ((carryOut v).exec s).1, ((carryOut v).exec s).2) := by
      simp only [out, carriedOut, hread]
    have hrun : (ofBody body carryOut tell).run s =
        (ofOutcome tell ((carryOut v).exec s).1, ((carryOut v).exec s).2) := by
      unfold ofBody
      rw [hread]
      show (StateT.run (do
        match ← (carryOut v).run with
        | .ok result => return tell result
        | .error fault => return ofFault fault) s : WebAnswer × Session) = _
      rw [StateT.run_bind]
      unfold Run.exec
      generalize (carryOut v).run.run s = ended
      obtain ⟨fault | r, s'⟩ := ended <;> rfl
    have hjson := Json.isJson_of_readBytes hread
    rw [hout, hrun]
    exact ⟨rfl, tells_ofOutcome hfields htell _ (hsettles v hjson s)⟩

end WebAnswer

/-! ### Responses -/

theorem UpdateMessage.text_injective : Function.Injective UpdateMessage.text := by
  intro m n h
  cases m <;> cases n <;> first | rfl | simp [text] at h

namespace Server

/-- The response to what is posted to a page is the answer of the page. -/
theorem run_respond {settings : Settings} {r : WebRequest} {page : Page}
    (hmethod : r.method = "POST") (hpage : Page.ofPath? r.path = some page)
    (hallows : page.allows "POST") (s : Session) :
    let response := (respond settings r).run s
    ((response.1.status, response.1.body), response.2) =
      (answerPage settings r.body page).run s := by
  have hupper : Text.toUpper "POST" = "POST" := by decide
  have hoptions : "POST" ≠ "OPTIONS" := by decide
  have hhead : r.method ≠ "HEAD" := by
    rw [hmethod]
    decide
  have hanswer : answer settings (Text.toUpper r.method) r.path r.body =
      answerPage settings r.body page := by
    rw [hmethod, hupper, answer, if_neg hoptions, hpage]
    exact if_pos hallows
  intro response
  have hresponse : response =
      ({ status := ((answerPage settings r.body page).run s).1.1
         crossOrigin := { origin := settings.allowOrigin }
         body := ((answerPage settings r.body page).run s).1.2 },
        ((answerPage settings r.body page).run s).2) := by
    show (respond settings r).run s = _
    unfold respond
    rw [hanswer, StateT.run_bind]
    simp only [if_neg hhead]
    rfl
  rw [hresponse]
  rfl

/-- What is told as the result of making a form. -/
def createdFields (c : Created) : List (String × Value) :=
  [("formId", c.formId), ("formUrl", c.formUrl), ("data", c.data)]

/-- What is told as the result of changing a form. -/
def updatedFields (u : Updated) : List (String × Value) :=
  [("message", .text u.message.text), ("data", u.data)]

/-- A body that is sent to one of the two pages is carried out if it is JSON, and the response tells
what this comes to: a result, a request that was turned down before any call, the failure of the
last call with the status and the text of its reply, or an internal error. -/
theorem respond_tells (settings : Settings) {r : WebRequest} (hmethod : r.method = "POST")
    (s : Session) :
    let response := (respond settings r).run s
    let answer := (response.1.status, response.1.body)
    (r.path = "/create-form" →
      let out := WebAnswer.carriedOut r.body settings.publisher.createFromBody s
      response.2 = out.2 ∧
        WebAnswer.Tells createdFields "Failed to create form" s out.1 out.2 answer) ∧
    (r.path = "/update-form" →
      let out := WebAnswer.carriedOut r.body settings.publisher.updateFromBody s
      response.2 = out.2 ∧
        WebAnswer.Tells updatedFields "Failed to update form" s out.1 out.2 answer) := by
  intro response answer
  constructor
  · intro hpath out
    have hpage : Page.ofPath? r.path = some .createForm := by
      rw [hpath]
      rfl
    have hrun : (answer, response.2) = (answerPage settings r.body .createForm).run s :=
      run_respond hmethod hpage rfl s
    have hfields : Function.Injective createdFields := by
      rintro ⟨formId, formUrl, data⟩ ⟨_, _, _⟩ h
      simpa [createdFields] using h
    have htells := WebAnswer.tells_ofBody hfields WebAnswer.ofCreated (fun c => rfl) r.body
      (fun v hv => settings.publisher.settles_createFromBody hv) s
    have hfailure : "Failed to " ++ Operation.createForm.describe = "Failed to create form" := by
      decide
    obtain ⟨hanswer, hsession⟩ := Prod.mk.inj hrun
    rw [hfailure] at htells
    rw [hanswer, hsession]
    exact htells
  · intro hpath out
    have hpage : Page.ofPath? r.path = some .updateForm := by
      rw [hpath]
      rfl
    have hrun : (answer, response.2) = (answerPage settings r.body .updateForm).run s :=
      run_respond hmethod hpage rfl s
    have hfields : Function.Injective updatedFields := by
      rintro ⟨message, data⟩ ⟨message', data'⟩ h
      obtain ⟨htext, hdata⟩ : message.text = message'.text ∧ data = data' := by
        simpa [updatedFields] using h
      rw [UpdateMessage.text_injective htext, hdata]
    have htells := WebAnswer.tells_ofBody hfields WebAnswer.ofUpdated (fun u => rfl) r.body
      (fun v hv => settings.publisher.settles_updateFromBody hv) s
    have hfailure : "Failed to " ++ Operation.updateForm.describe = "Failed to update form" := by
      decide
    obtain ⟨hanswer, hsession⟩ := Prod.mk.inj hrun
    rw [hfailure] at htells
    rw [hanswer, hsession]
    exact htells

/-- The status of a call that the provider refused is told with its text. -/
theorem respond_tells_of_refused_call :
    let settings : Settings := { apiKey := .text "k" }
    let r : WebRequest := {
      method := "POST"
      target := "/create-form"
      body := "\x7b\x7d".toUTF8.toList }
    let s : Session := { replies := [.response 400 "no"] }
    let response := (respond settings r).run s
    (response.1.status, response.1.body) =
      (400, .json (.object [
        ("error", .text "Failed to create form"), ("details", .text "no")])) := by
  intro settings r s response
  have hpath : r.path = "/create-form" := by decide
  have hdetect : Json.Encoding.detect r.body = (.utf8, r.body) := by decide +kernel
  have hdecode : Json.Encoding.utf8.decode? r.body = some "\x7b\x7d" := by decide +kernel
  have hread : Json.readBytes r.body = .ok (.map []) := by
    simp only [Json.readBytes, hdetect, hdecode]
    rfl
  have hout : (WebAnswer.carriedOut r.body settings.publisher.createFromBody s).1 =
      some (.error (.provider ⟨.createForm, some 400, some "no"⟩)) := by
    simp only [WebAnswer.carriedOut, hread]
    rfl
  have htells := ((respond_tells settings (r := r) rfl s).1 hpath).2
  exact (htells.failed 400 "no").mp ⟨_, hout, rfl, rfl⟩

end Server

end FormPublisher
