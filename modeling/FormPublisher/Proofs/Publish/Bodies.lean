import FormPublisher.Proofs.Publish.Keys
import FormPublisher.Proofs.Publish.Update
import FormPublisher.Proofs.Request.Document
import FormPublisher.Publish.Create

/-!
# Requests that come as bodies

The key of a request that comes as a body is looked for twice: in the body, before anything else is
read, and in what was read out of it.  `CarriesOut` says that this comes to the same as reading the
body first and then carrying out what was read.  Only a body that cannot be read tells the two ways
apart, and only if there is no key for it: what is missing is then the key.

`carriesOut_of_bodyKey` proves it for every kind of request, and `fromBody_carriesOut` is what it
says of the requests to make and to change a form.
-/

namespace FormPublisher

variable {α ρ : Type}

/-- Reads a request first and then carries it out. -/
def readThenAct (read : Except Fault ρ) (act : ρ → Run α) : Run α := do
  act (← Session.ensured read)

theorem exec_readThenAct_of_ok {read : Except Fault ρ} {r : ρ} (h : read = .ok r)
    (act : ρ → Run α) (s : Session) : (readThenAct read act).exec s = (act r).exec s := by
  rw [readThenAct, Run.exec_bind_ok (Run.exec_ensured_of_ok h s)]

theorem exec_readThenAct_of_error {read : Except Fault ρ} {fault : Fault} (h : read = .error fault)
    (act : ρ → Run α) (s : Session) : (readThenAct read act).exec s = (.error fault, s) := by
  have hread : (Session.ensured read).exec s = (.error fault, s) := by
    rw [Run.exec_ensured, h]
  rw [readThenAct, Run.exec_bind_error hread]

/-- A body is carried out (`run`) as what is read out of it is carried out by `act`, where `key`
tells the key of what is read. -/
structure CarriesOut (configured body : Value) (read : Except Fault ρ) (key : ρ → Option Value)
    (act : ρ → Run α) (run : Run α) (s : Session) : Prop where
  /-- What is read has the key of the body. -/
  key_of_read : ∀ r, read = .ok r → key r = bodyKey body
  /-- A body that can be read may as well be read first. -/
  exec_of_read : ∀ r, read = .ok r → run.exec s = (readThenAct read act).exec s
  /-- If there is a key for it, so may one that cannot be read. -/
  exec_of_key : ∀ fault, read = .error fault → (keyFor configured body).isTruthy →
    run.exec s = (readThenAct read act).exec s
  /-- Otherwise the body is turned down for its key, and not for what is wrong with it. -/
  exec_of_noKey : ∀ fault, read = .error fault → (keyFor configured body).isTruthy = false →
    run.exec s = (.error (.rejected .noKey), s) ∧
      (readThenAct read act).exec s = (.error fault, s)

/-- A key that is looked for in the body first and then in what was read out of it. -/
theorem carriesOut_of_bodyKey {configured body : Value} {read : Except Fault ρ}
    {key : ρ → Option Value} {act : ρ → Run α} (hkey : ∀ r, read = .ok r → key r = bodyKey body)
    (hact : ∀ r s, resolveKey (key r) configured = .error .noKey →
      (act r).exec s = (.error (.rejected .noKey), s)) (s : Session) :
    CarriesOut configured body read key act (do
      discard <| Session.accepted (resolveKey (bodyKey body) configured)
      act (← Session.ensured read)) s := by
  have hfound (htruthy : (keyFor configured body).isTruthy = true) :
      Run.exec (do
        discard <| Session.accepted (resolveKey (bodyKey body) configured)
        act (← Session.ensured read)) s = (readThenAct read act).exec s := by
    rw [resolveKey_bodyKey, if_pos htruthy]
    rfl
  have hmissing (htruthy : (keyFor configured body).isTruthy = false) :
      Run.exec (do
        discard <| Session.accepted (resolveKey (bodyKey body) configured)
        act (← Session.ensured read)) s = (.error (.rejected .noKey), s) := by
    rw [resolveKey_bodyKey, htruthy]
    rfl
  constructor
  · exact hkey
  · intro r hread
    cases htruthy : (keyFor configured body).isTruthy with
    | true => exact hfound htruthy
    | false =>
      -- The second look finds no key either, and turns the request down in the same way.
      have hresolve : resolveKey (key r) configured = .error .noKey := by
        rw [hkey r hread, resolveKey_bodyKey, htruthy]
        rfl
      rw [hmissing htruthy, exec_readThenAct_of_ok hread, hact r s hresolve]
  · intro fault _ htruthy
    exact hfound htruthy
  · intro fault hread htruthy
    exact ⟨hmissing htruthy, exec_readThenAct_of_error hread act s⟩

/-- The key of a request to change a form is the key of the body that it is read out of. -/
theorem UpdateRequest.apiKey_of_read {body : Value} {u : UpdateRequest} (h : read body = .ok u) :
    u.apiKey = bodyKey body := by
  unfold read at h
  split at h
  · rename_i data hdata
    obtain ⟨form, -, rfl⟩ := ofEntries_eq_ok_iff.mp (mapError_eq_ok_iff.mp h)
    rw [bodyKey, hdata]
  · cases h

namespace Publisher

/-- A document without a key is turned down. -/
theorem exec_createForm_of_noKey {p : Publisher} {d : Document}
    (h : resolveKey d.apiKey p.configuredKey = .error .noKey) (s : Session) :
    (p.createForm d).exec s = (.error (.rejected .noKey), s) := by
  have haccepted : (Session.accepted (resolveKey d.apiKey p.configuredKey)).exec s =
      (.error (.rejected .noKey), s) := by
    rw [Run.exec_accepted, h]
    rfl
  rw [createForm, Run.exec_bind_error haccepted]

/-- A request to change a form without a key is turned down. -/
theorem exec_updateForm_of_noKey {p : Publisher} {u : UpdateRequest}
    (h : resolveKey u.apiKey p.configuredKey = .error .noKey) (s : Session) :
    (p.updateForm u).exec s = (.error (.rejected .noKey), s) := by
  have hchecked : p.checked u = .error .noKey := by
    rw [checked, h]
    rfl
  exact exec_updateForm_of_error hchecked s

theorem carriesOut_createFromBody (p : Publisher) (body : Value) (s : Session) :
    CarriesOut p.configuredKey body (Document.read body) Document.apiKey p.createForm
      (p.createFromBody body) s := by
  refine carriesOut_of_bodyKey (fun d hread => Document.apiKey_of_read hread) ?_ s
  intro d s h
  exact exec_createForm_of_noKey h s

theorem carriesOut_updateFromBody (p : Publisher) (body : Value) (s : Session) :
    CarriesOut p.configuredKey body (UpdateRequest.read body) UpdateRequest.apiKey p.updateForm
      (p.updateFromBody body) s := by
  refine carriesOut_of_bodyKey (fun u hread => UpdateRequest.apiKey_of_read hread) ?_ s
  intro u s h
  exact exec_updateForm_of_noKey h s

theorem exec_updateFromBody_of_read {body : Value} {u : UpdateRequest}
    (h : UpdateRequest.read body = .ok u) (p : Publisher) (s : Session) :
    (p.updateFromBody body).exec s = (p.updateForm u).exec s := by
  rw [(p.carriesOut_updateFromBody body s).exec_of_read u h, exec_readThenAct_of_ok h]

/-- The body of a request to make a form, and that of a request to change one, are carried out as
what is read out of them is. -/
theorem fromBody_carriesOut (p : Publisher) (body : Value) (s : Session) :
    CarriesOut p.configuredKey body (Document.read body) Document.apiKey p.createForm
        (p.createFromBody body) s ∧
      CarriesOut p.configuredKey body (UpdateRequest.read body) UpdateRequest.apiKey p.updateForm
        (p.updateFromBody body) s :=
  ⟨p.carriesOut_createFromBody body s, p.carriesOut_updateFromBody body s⟩

end Publisher

end FormPublisher
