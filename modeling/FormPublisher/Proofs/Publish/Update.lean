import FormPublisher.Proofs.Provider.Exchange
import FormPublisher.Publish.Update

/-!
# Requests to change a form

A request whose key, form and kind are in order is handed to the handler of its kind with a new
client (`exec_updateForm`); otherwise it is turned down and the session stays as it is
(`exec_updateForm_of_error`).
-/

namespace FormPublisher

/-- The session after a client was opened with a key. -/
def Session.opened (s : Session) (key : Value) : Session :=
  { s with clientKeys := s.clientKeys ++ [key] }

namespace Publisher

/-- The client that is opened with a key. -/
def client (p : Publisher) (key : Value) : Client :=
  { apiKey := key, apiUrl := p.apiUrl, timeout := p.timeout }

/-- The handler of a kind of change. -/
def handle (p : Publisher) (kind : UpdateKind) (key : Value) (form : String) (u : UpdateRequest) :
    Run Updated :=
  match kind with
  | .properties => updateProperties (p.client key) form u
  | .questions => updateQuestions (p.client key) p.abortOnFailure form u
  | .conditions => updateConditions (p.client key) form u

/-- The key, the form and the kind of a request, checked in this order. -/
def checked (p : Publisher) (u : UpdateRequest) :
    Except Rejection (Value × String × UpdateKind) := do
  let key ← resolveKey u.apiKey p.configuredKey
  match u.formId.filter (· ≠ "") with
  | none => .error .noFormId
  | some form =>
    match UpdateKind.ofValue? u.kind with
    | none => .error .unknownUpdate
    | some kind => .ok (key, form, kind)

theorem checked_eq_ok_iff {p : Publisher} {u : UpdateRequest} {key : Value} {form : String}
    {kind : UpdateKind} :
    p.checked u = .ok (key, form, kind) ↔
      resolveKey u.apiKey p.configuredKey = .ok key ∧ u.formId = some form ∧ form ≠ "" ∧
        UpdateKind.ofValue? u.kind = some kind := by
  have hform : u.formId.filter (· ≠ "") = some form ↔ u.formId = some form ∧ form ≠ "" := by
    rw [Option.filter_eq_some_iff, decide_eq_true_iff]
  rw [← and_assoc (a := u.formId = some form), ← hform]
  unfold checked
  cases resolveKey u.apiKey p.configuredKey with
  | error cause => simp
  | ok k =>
    cases u.formId.filter (· ≠ "") with
    | none => simp
    | some f =>
      cases UpdateKind.ofValue? u.kind with
      | none => simp
      | some d => simp

/-- What a request to change a form comes to. -/
theorem exec_updateForm_eq (p : Publisher) (u : UpdateRequest) (s : Session) :
    (p.updateForm u).exec s =
      match p.checked u with
      | .error cause => (.error (.rejected cause), s)
      | .ok (key, form, kind) =>
        (blame .updateForm ((p.handle kind key form u).exec (s.opened key)).1,
          ((p.handle kind key form u).exec (s.opened key)).2) := by
  unfold updateForm checked
  cases hkey : resolveKey u.apiKey p.configuredKey with
  | error cause => rfl
  | ok key =>
    rw [Run.exec_bind_ok (Run.exec_accepted_of_ok rfl s)]
    cases u.formId.filter (· ≠ "") with
    | none => rfl
    | some form =>
      cases UpdateKind.ofValue? u.kind with
      | none => rfl
      | some kind =>
        dsimp only [ok_bind]
        rw [Run.exec_bind_ok (p.exec_openClient key s), exec_during]
        cases kind <;> rfl

/-- A request that passes the checks is handed to the handler of its kind with a new client. -/
theorem exec_updateForm {p : Publisher} {u : UpdateRequest} {key : Value} {form : String}
    {kind : UpdateKind} (h : p.checked u = .ok (key, form, kind)) (s : Session) :
    (p.updateForm u).exec s =
      (blame .updateForm ((p.handle kind key form u).exec (s.opened key)).1,
        ((p.handle kind key form u).exec (s.opened key)).2) := by
  rw [exec_updateForm_eq, h]

/-- A request that does not pass the checks leaves the session as it is. -/
theorem exec_updateForm_of_error {p : Publisher} {u : UpdateRequest} {cause : Rejection}
    (h : p.checked u = .error cause) (s : Session) :
    (p.updateForm u).exec s = (.error (.rejected cause), s) := by
  rw [exec_updateForm_eq, h]

/-! ### Bodies -/

theorem exec_updateFromBody_eq (p : Publisher) (body : Value) (s : Session) :
    (p.updateFromBody body).exec s =
      match resolveKey (bodyKey body) p.configuredKey with
      | .error cause => (.error (.rejected cause), s)
      | .ok _ =>
        match UpdateRequest.read body with
        | .error fault => (.error fault, s)
        | .ok u => (p.updateForm u).exec s := by
  unfold updateFromBody
  cases resolveKey (bodyKey body) p.configuredKey with
  | error cause => rfl
  | ok key =>
    cases UpdateRequest.read body with
    | error fault => rfl
    | ok u => rfl

/-- The request in an object is carried out as it is: the key is looked at twice, but it is the
same. -/
theorem exec_updateFromBody_map {data : Entries} {u : UpdateRequest}
    (hu : UpdateRequest.ofEntries data = .ok u) (hkey : u.apiKey = data.present? "apiKey")
    (p : Publisher) (s : Session) :
    (p.updateFromBody (.map data)).exec s = (p.updateForm u).exec s := by
  have hread : UpdateRequest.read (.map data) = .ok u := by
    show (UpdateRequest.ofEntries data).mapError Fault.misuse = _
    rw [hu]
    rfl
  have hbody : bodyKey (.map data) = u.apiKey := hkey.symm
  rw [exec_updateFromBody_eq, hbody, hread]
  cases h : resolveKey u.apiKey p.configuredKey with
  | ok key => rfl
  | error cause =>
    have hchecked : p.checked u = .error cause := by
      rw [checked, h]
      rfl
    rw [exec_updateForm_of_error hchecked]

end Publisher

end FormPublisher
