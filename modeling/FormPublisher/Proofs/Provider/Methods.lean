import FormPublisher.Proofs.Json.Lexing
import FormPublisher.Proofs.Json.Value
import FormPublisher.Proofs.Provider.Exchange

/-!
# The methods of a client

`ClientMethod` is a method of a client with the arguments that it is given.  All of them work alike:
`build` makes a request of the arguments, and `run_eq` says that this request, if there is one, is
sent, and that nothing else happens.

So there are two ways in which a method can end (`exec_run_cases`).  Either its arguments make no
request, which for arguments of JSON is for their kinds alone (`IsUnbuildable`), and there is no
call.  Or there is exactly one call, and the reply to it decides (`EndsWith`).  In a single case
what is wrong then is no failure of the provider: the answer is JSON, but a literal or a nesting in
it is too large to be taken in.
-/

namespace FormPublisher

/-- A method of a client with its arguments. -/
inductive ClientMethod where
  | createForm (payload : Value)
  | updateProperties (form properties : Value)
  | updateQuestion (form question data : Value)
  | deleteQuestion (form question : Value)
  | addQuestions (form questions : Value)

/-- The kinds of values that can be gone through one by one. -/
def Kind.isIterable : Kind → Bool
  | text | bytes | list | pair | map | set => true
  | _ => false

namespace ClientMethod

/-- The values that a method is given. -/
def arguments : ClientMethod → List Value
  | createForm payload => [payload]
  | updateProperties form properties => [form, properties]
  | updateQuestion form question data => [form, question, data]
  | deleteQuestion form question => [form, question]
  | addQuestions form questions => [form, questions]

/-- What a client does for a method. -/
def run (c : Client) : ClientMethod → Run Value
  | createForm payload => c.createForm payload
  | updateProperties form properties => c.updateProperties form properties
  | updateQuestion form question data => c.updateQuestion form question data
  | deleteQuestion form question => c.deleteQuestion form question
  | addQuestions form questions => c.addQuestions form questions

/-- The operation of a method in words; a question is named by its text. -/
def operation : ClientMethod → String
  | createForm _ => "create form"
  | updateProperties _ _ => "update form properties"
  | updateQuestion _ question _ => "update question " ++ question.display
  | deleteQuestion _ question => "delete question " ++ question.display
  | addQuestions _ _ => "add questions"

/-- Why the arguments of a method make no request: properties and the data of a question must be
objects, and questions must be something that can be gone through. -/
inductive IsUnbuildable : ClientMethod → Misuse → Prop
  | properties {form properties : Value} (h : properties.kind ≠ .map) :
      IsUnbuildable (.updateProperties form properties) (.noMember properties.kind .items)
  | data {form question data : Value} (h : data.kind ≠ .map) :
      IsUnbuildable (.updateQuestion form question data) (.noMember data.kind .items)
  | questions {form questions : Value} (h : questions.kind.isIterable = false) :
      IsUnbuildable (.addQuestions form questions) (.notIterable questions.kind)

/-- What a method makes of the reply to its call. -/
inductive EndsWith (m : ClientMethod) : Reply → Except Fault Value → Prop
  /-- Without an error status, the value that the text denotes. -/
  | parsed {status : Int} {body : String} {v : Value} (hstatus : ¬ (400 ≤ status ∧ status < 600))
      (hbody : Json.read body = .ok v) : m.EndsWith (.response status body) (.ok v)
  /-- With an error status, a failure with the status and the text, whatever this text is. -/
  | refused {status : Int} {body : String} {e : ProviderError}
      (hstatus : 400 ≤ status ∧ status < 600) (hmessage : e.message = "Failed to " ++ m.operation)
      (hleft : e.status = some status ∧ e.body = some body) :
      m.EndsWith (.response status body) (.error (.provider e))
  /-- If the text is no JSON text, a failure with neither. -/
  | malformed {status : Int} {body : String} {e : ProviderError}
      (hstatus : ¬ (400 ≤ status ∧ status < 600)) (hbody : Json.read body = .error .malformed)
      (hmessage : e.message = "Failed to " ++ m.operation)
      (hleft : e.status = none ∧ e.body = none) :
      m.EndsWith (.response status body) (.error (.provider e))
  /-- If nothing came back, likewise. -/
  | lost {e : ProviderError} (hmessage : e.message = "Failed to " ++ m.operation)
      (hleft : e.status = none ∧ e.body = none) : m.EndsWith .fault (.error (.provider e))
  /-- If the text is JSON with something too large in it, an error that is no failure of the
  provider. -/
  | unreadable {status : Int} {body : String} {cause : LiteralError}
      (hstatus : ¬ (400 ≤ status ∧ status < 600))
      (hbody : Json.read body = .error (.literal cause)) :
      m.EndsWith (.response status body) (.error (.literal cause))

/-! ### Requests -/

/-- The request that a method makes of its arguments. -/
def build : ClientMethod → Except Misuse Request
  | createForm payload => .ok (.createForm payload)
  | updateProperties form properties => do
    let form ← form.render
    let fields ← properties.formFields "properties"
    return .updateProperties form fields
  | updateQuestion form question data => do
    let form ← form.render
    let question ← question.render
    let fields ← data.formFields "question"
    return .updateQuestion form question fields
  | deleteQuestion form question => do
    let form ← form.render
    let question ← question.render
    return .deleteQuestion form question
  | addQuestions form questions => do
    let items ← questions.elements
    let form ← form.render
    return .addQuestions form items

end ClientMethod

/-! ### Values as fields and as questions -/

/-- A JSON value is written as the fields of a group if it is an object, and otherwise it is not. -/
theorem Value.formFields_cases (group : String) {v : Value} (hv : v.isJson) :
    (v.kind = .map ∧ ∃ fields, v.formFields group = .ok fields) ∨
      (v.kind ≠ .map ∧ v.formFields group = .error (.noMember v.kind .items)) := by
  by_cases hkind : v.kind = .map
  · obtain ⟨es, rfl⟩ := exists_eq_map hv hkind
    exact Or.inl ⟨hkind, exists_formFields_eq_ok group hv⟩
  · refine Or.inr ⟨hkind, ?_⟩
    unfold formFields
    rw [opened_of_isJson hv]
    cases v with
    | map _ => exact absurd rfl hkind
    | _ => rfl

/-- A JSON value is gone through one by one if its kind allows it, and otherwise it is not. -/
theorem Value.elements_cases {v : Value} (hv : v.isJson) :
    (v.kind.isIterable ∧ ∃ items, v.elements = .ok items) ∨
      (v.kind.isIterable = false ∧ v.elements = .error (.notIterable v.kind)) := by
  unfold elements
  rw [opened_of_isJson hv]
  cases v with
  | scalar s =>
    cases s with
    | text _ | torn _ | bytes _ => exact Or.inl ⟨rfl, _, rfl⟩
    | _ => exact Or.inr ⟨rfl, rfl⟩
  | list _ | map _ | pair _ _ | set _ => exact Or.inl ⟨rfl, _, rfl⟩
  | knot _ _ | back _ _ => simp [isJson] at hv

/-! ### Steps of a call -/

theorem Reply.isError_iff {status : Int} : isError status ↔ 400 ≤ status ∧ status < 600 := by
  simp [isError]

theorem Session.checked_bind {α β : Type} (x : Except Misuse α) (f : α → Except Misuse β) :
    checked (x >>= f) = checked x >>= fun a => checked (f a) := by
  cases x <;> rfl

namespace ClientMethod

/-- A method builds its request and sends it. -/
theorem run_eq (c : Client) (m : ClientMethod) : m.run c = Session.checked m.build >>= c.send := by
  cases m with
  | createForm payload => rfl
  | updateProperties _ _ | updateQuestion _ _ _ | deleteQuestion _ _ | addQuestions _ _ =>
    simp only [build, Session.checked_bind, bind_assoc]
    rfl

/-- A request that is built is sent, in one call. -/
theorem exec_run_of_ok {m : ClientMethod} {r : Request} (h : m.build = .ok r) (c : Client)
    (s : Session) :
    (m.run c).exec s = (Client.outcome r (s.reply 0), s.after [c.call r]) := by
  rw [run_eq, Run.exec_bind_ok (Run.exec_checked_of_ok h s), Client.exec_send]

/-- Without a request there is no call. -/
theorem exec_run_of_error {m : ClientMethod} {e : Misuse} (h : m.build = .error e) (c : Client)
    (s : Session) : (m.run c).exec s = (.error (.misuse e), s) := by
  have hchecked : (Session.checked m.build).exec s = (.error (.misuse e), s) := by
    rw [h]
    rfl
  rw [run_eq, Run.exec_bind_error hchecked]

/-! ### Building a request -/

/-- JSON values make a request whose operation is that of the method, unless one of them is of a
wrong kind. -/
theorem build_cases {m : ClientMethod} (hm : ∀ v ∈ m.arguments, v.isJson) :
    (∃ e, m.IsUnbuildable e ∧ m.build = .error e) ∨
      ((∀ e, ¬ m.IsUnbuildable e) ∧
        ∃ r, m.build = .ok r ∧ r.operation.describe = m.operation) := by
  cases m with
  | createForm payload =>
    refine Or.inr ⟨?_, .createForm payload, rfl, rfl⟩
    intro e h
    cases h
  | updateProperties form properties =>
    simp only [arguments, List.forall_mem_cons] at hm
    obtain ⟨hform, hproperties, -⟩ := hm
    have hrender : form.render = .ok form.display := Value.render_of_isJson hform
    rcases Value.formFields_cases "properties" hproperties with
      ⟨hmap, fields, hfields⟩ | ⟨hmap, herror⟩
    · refine Or.inr ⟨?_, .updateProperties form.display fields, ?_, rfl⟩
      · intro e h
        cases h with
        | properties hne => exact hne hmap
      · rw [build, hrender, ok_bind, hfields]
        rfl
    · exact Or.inl ⟨_, .properties hmap, by rw [build, hrender, ok_bind, herror]; rfl⟩
  | updateQuestion form question data =>
    simp only [arguments, List.forall_mem_cons] at hm
    obtain ⟨hform, hquestion, hdata, -⟩ := hm
    have hrender : form.render = .ok form.display := Value.render_of_isJson hform
    have hname : question.render = .ok question.display := Value.render_of_isJson hquestion
    rcases Value.formFields_cases "question" hdata with ⟨hmap, fields, hfields⟩ | ⟨hmap, herror⟩
    · refine Or.inr ⟨?_, .updateQuestion form.display question.display fields, ?_, rfl⟩
      · intro e h
        cases h with
        | data hne => exact hne hmap
      · rw [build, hrender, ok_bind, hname, ok_bind, hfields]
        rfl
    · exact Or.inl ⟨_, .data hmap, by rw [build, hrender, ok_bind, hname, ok_bind, herror]; rfl⟩
  | deleteQuestion form question =>
    simp only [arguments, List.forall_mem_cons] at hm
    obtain ⟨hform, hquestion, -⟩ := hm
    have hrender : form.render = .ok form.display := Value.render_of_isJson hform
    have hname : question.render = .ok question.display := Value.render_of_isJson hquestion
    refine Or.inr ⟨?_, .deleteQuestion form.display question.display, ?_, rfl⟩
    · intro e h
      cases h
    · rw [build, hrender, ok_bind, hname]
      rfl
  | addQuestions form questions =>
    simp only [arguments, List.forall_mem_cons] at hm
    obtain ⟨hform, hquestions, -⟩ := hm
    have hrender : form.render = .ok form.display := Value.render_of_isJson hform
    rcases Value.elements_cases hquestions with ⟨hkind, items, hitems⟩ | ⟨hkind, herror⟩
    · refine Or.inr ⟨?_, .addQuestions form.display items, ?_, rfl⟩
      · intro e h
        cases h with
        | questions hnot => exact Bool.noConfusion (hkind.symm.trans hnot)
      · rw [build, hitems, ok_bind, hrender]
        rfl
    · exact Or.inl ⟨_, .questions hkind, by rw [build, herror]; rfl⟩

/-! ### Taking in a reply -/

/-- What a client makes of the reply to a request with the operation of a method. -/
theorem endsWith_outcome {m : ClientMethod} {r : Request}
    (h : r.operation.describe = m.operation) (reply : Reply) :
    m.EndsWith reply (Client.outcome r reply) := by
  have hmessage (status : Option Int) (body : Option String) :
      ProviderError.message ⟨r.operation, status, body⟩ = "Failed to " ++ m.operation := by
    rw [← h]
    rfl
  cases reply with
  | fault => exact .lost (hmessage none none) ⟨rfl, rfl⟩
  | response status body =>
    by_cases hstatus : Reply.isError status = true
    · -- The text is not looked at.
      have hanswer : (Reply.response status body).answer =
          .error (.failed (some status) (some body)) := if_pos hstatus
      rw [Client.outcome, hanswer]
      exact .refused (Reply.isError_iff.mp hstatus) (hmessage _ _) ⟨rfl, rfl⟩
    · have hrange : ¬ (400 ≤ status ∧ status < 600) := by
        intro hrange
        exact hstatus (Reply.isError_iff.mpr hrange)
      have hfree : Reply.isError status = false := Bool.eq_false_iff.mpr hstatus
      cases hbody : Json.read body with
      | ok v =>
        rw [Client.outcome, Reply.answer_of_read hfree hbody]
        exact .parsed hrange hbody
      | error flaw =>
        cases flaw with
        | malformed =>
          have hanswer : (Reply.response status body).answer = .error (.failed none none) := by
            rw [Reply.answer, hfree, hbody]
            rfl
          rw [Client.outcome, hanswer]
          exact .malformed hrange hbody (hmessage _ _) ⟨rfl, rfl⟩
        | literal cause =>
          rw [Client.outcome, Reply.answer_of_literal hfree hbody]
          exact .unreadable hrange hbody

/-! ### The whole method -/

/-- A method given JSON values ends in one of two ways, the same for every session.  Its arguments
make no request, which is for the kind of one of them, and there is no call.  Or there is exactly
one call, the same for every session, and what the method ends with is a function of its reply. -/
theorem exec_run_cases (c : Client) (m : ClientMethod) (hm : ∀ v ∈ m.arguments, v.isJson) :
    (∃ e, m.IsUnbuildable e ∧ ∀ s, (m.run c).exec s = (.error (.misuse e), s)) ∨
      ((∀ e, ¬ m.IsUnbuildable e) ∧ ∃ (call : Call) (outcome : Reply → Except Fault Value),
        (∀ reply, m.EndsWith reply (outcome reply)) ∧
          ∀ s, (m.run c).exec s = (outcome (s.reply 0), s.after [call])) := by
  rcases build_cases hm with ⟨e, he, hbuild⟩ | ⟨hnone, r, hbuild, hoperation⟩
  · exact Or.inl ⟨e, he, exec_run_of_error hbuild c⟩
  · refine Or.inr ⟨hnone, c.call r, Client.outcome r, ?_, exec_run_of_ok hbuild c⟩
    intro reply
    exact endsWith_outcome hoperation reply

/-- A question that is not there: the reply has an error status and the empty text, which is kept as
a text. -/
theorem exec_run_cases_of_empty_reply :
    let m : ClientMethod := .deleteQuestion (.text "7") (.text "5")
    let s : Session := { replies := [.response 404 ""] }
    (∀ v ∈ m.arguments, v.isJson) ∧ ∃ call e,
      (m.run { apiKey := .text "k" }).exec s = (.error (.provider e), s.after [call]) ∧
        e.message = "Failed to delete question 5" ∧ e.status = some 404 ∧ e.body = some "" := by
  intro m s
  have hm : ∀ v ∈ m.arguments, v.isJson := by decide
  refine ⟨hm, ?_⟩
  rcases exec_run_cases { apiKey := .text "k" } m hm with ⟨e, he, -⟩ | ⟨-, call, out, hout, hexec⟩
  · change IsUnbuildable (.deleteQuestion (.text "7") (.text "5")) e at he
    cases he
  · have hends : m.EndsWith (.response 404 "") (out (.response 404 "")) := hout _
    have hreply : s.reply 0 = .response 404 "" := rfl
    rw [hexec s, hreply]
    generalize out (.response 404 "") = ending at hends
    have hrange : (400 : Int) ≤ 404 ∧ (404 : Int) < 600 := by omega
    cases hends with
    | refused _ hmessage hleft => exact ⟨call, _, rfl, hmessage, hleft⟩
    | parsed hstatus | malformed hstatus | unreadable hstatus => exact absurd hrange hstatus

/-- An answer that is an integer of too many digits is no failure of the provider. -/
theorem exec_run_of_long_integer :
    let m : ClientMethod := .deleteQuestion (.text "7") (.text "5")
    let s : Session := { replies := [.response 200 (String.ofList (List.replicate 4301 '1'))] }
    ((m.run { apiKey := .text "k" }).exec s).1 = .error (.literal (.digits 4301)) := by
  intro m
  have hrun (r : Reply) (cause : LiteralError) (hr : r.answer = .error (.unreadable cause)) :
      ((m.run { apiKey := .text "k" }).exec { replies := [r] }).1 = .error (.literal cause) := by
    have hbuild : m.build = .ok (.deleteQuestion "7" "5") := rfl
    rw [exec_run_of_ok hbuild]
    show Client.outcome _ r = _
    rw [Client.outcome, hr]
    rfl
  exact hrun _ _ (Reply.answer_of_literal rfl (Json.read_replicate_one (by decide)))

end ClientMethod

end FormPublisher
