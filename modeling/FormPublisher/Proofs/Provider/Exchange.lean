import FormPublisher.Proofs.Outcome
import FormPublisher.Publish.Publisher

/-!
# Runs and the calls they make

`Run.exec` is what a run ends with and the session that it leaves.  A run talks to the provider only
by `Client.attempt`, which makes one call and looks at one reply (`attempt_eq`), so the session
after any number of calls is known from these calls: `Session.after` records them and gives up as
many replies.  The other steps of a run leave the replies and the calls alone.

Replies are sorted by what a call makes of them: it succeeds, it fails, or its text is JSON that
cannot be taken in (`Reply.isUnreadable`).
-/

namespace FormPublisher

variable {α β : Type}

/-! ### Sessions after calls -/

namespace Session

/-- The reply to a call after so many others. -/
def reply (s : Session) (i : Nat) : Reply := s.replies.getD i s.otherwise

/-- The session after calls. -/
def after (s : Session) (calls : List Call) : Session :=
  { s with replies := s.replies.drop calls.length, calls := s.calls ++ calls }

@[simp] theorem after_nil (s : Session) : s.after [] = s := by
  simp [after]

theorem after_append (s : Session) (as bs : List Call) :
    s.after (as ++ bs) = (s.after as).after bs := by
  simp [after, List.append_assoc]

@[simp] theorem calls_after (s : Session) (calls : List Call) :
    (s.after calls).calls = s.calls ++ calls := rfl

@[simp] theorem clientKeys_after (s : Session) (calls : List Call) :
    (s.after calls).clientKeys = s.clientKeys := rfl

/-- Calls use up the replies in order. -/
theorem reply_after (s : Session) (calls : List Call) (i : Nat) :
    (s.after calls).reply i = s.reply (calls.length + i) := by
  simp [reply, after, List.getD_eq_getElem?_getD]

theorem exchange_eq (call : Call) (s : Session) :
    exchange call s = (s.reply 0, s.after [call]) := by
  have hreply : s.replies.headD s.otherwise = s.reply 0 := by
    unfold reply
    cases s.replies <;> rfl
  have hrest : s.replies.tail = s.replies.drop 1 := by
    rw [List.drop_one]
  show (_, { s with replies := s.replies.tail, calls := s.calls ++ [call] }) = _
  rw [hreply, hrest]
  rfl

end Session

/-! ### Replies -/

namespace Reply

/-- A reply that a call takes for an answer. -/
def succeeds (r : Reply) : Bool :=
  match r.answer with
  | .ok _ => true
  | .error _ => false

/-- A reply whose text is JSON with a literal or a nesting that is too large to be taken in. -/
def isUnreadable (r : Reply) : Bool :=
  match r.answer with
  | .error (.unreadable _) => true
  | _ => false

/-- The status of a reply that says that its call failed. -/
def errorStatus? : Reply → Option Int
  | response status _ => if isError status then some status else none
  | fault => none

/-- The text of a reply that says that its call failed. -/
def errorText? : Reply → Option String
  | response status body => if isError status then some body else none
  | fault => none

/-- Without an error status the text alone decides. -/
theorem answer_of_read {status : Int} {text : String} (hstatus : isError status = false)
    {v : Value} (h : Json.read text = .ok v) : (response status text).answer = .ok v := by
  rw [answer, hstatus, h]
  rfl

theorem answer_of_literal {status : Int} {text : String} (hstatus : isError status = false)
    {cause : LiteralError} (h : Json.read text = .error (.literal cause)) :
    (response status text).answer = .error (.unreadable cause) := by
  rw [answer, hstatus, h]
  rfl

/-- A reply that fails its call leaves a status and a text, or neither. -/
theorem answer_cases (r : Reply) :
    (∃ v, r.answer = .ok v) ∨
      r.answer = .error (.failed r.errorStatus? r.errorText?) ∨
      ∃ cause, r.answer = .error (.unreadable cause) := by
  cases r with
  | fault => exact Or.inr (Or.inl rfl)
  | response status body =>
    unfold answer errorStatus? errorText?
    by_cases hs : isError status = true
    · exact Or.inr (Or.inl (by simp only [hs, if_true]))
    · simp only [hs, if_false, Bool.false_eq_true]
      cases Json.read body with
      | ok v => exact Or.inl ⟨v, rfl⟩
      | error flaw =>
        cases flaw with
        | malformed => exact Or.inr (Or.inl rfl)
        | literal cause => exact Or.inr (Or.inr ⟨cause, rfl⟩)

end Reply

/-! ### Runs -/

/-- What a run ends with, and the session that it leaves. -/
def Run.exec (r : Run α) (s : Session) : Except Fault α × Session := r.run.run s

namespace Run

@[simp] theorem exec_pure (a : α) (s : Session) : exec (pure a : Run α) s = (.ok a, s) := rfl

@[simp] theorem exec_throw (e : Fault) (s : Session) :
    exec (throw e : Run α) s = (.error e, s) := rfl

theorem exec_bind (x : Run α) (f : α → Run β) (s : Session) :
    exec (x >>= f) s =
      match exec x s with
      | (.ok a, s') => exec (f a) s'
      | (.error e, s') => (.error e, s') := by
  unfold exec
  rw [ExceptT.run_bind, StateT.run_bind]
  generalize x.run.run s = out
  obtain ⟨r, s'⟩ := out
  cases r <;> rfl

/-- A run goes on from where its first part ends. -/
theorem exec_bind_ok {x : Run α} {f : α → Run β} {s s' : Session} {a : α}
    (h : exec x s = (.ok a, s')) : exec (x >>= f) s = exec (f a) s' := by
  rw [exec_bind, h]

/-- A run ends where its first part fails. -/
theorem exec_bind_error {x : Run α} {f : α → Run β} {s s' : Session} {e : Fault}
    (h : exec x s = (.error e, s')) : exec (x >>= f) s = (.error e, s') := by
  rw [exec_bind, h]

theorem exec_bind_pure (x : Run α) (f : α → β) (s : Session) :
    exec (x >>= fun a => pure (f a)) s = (f <$> (exec x s).1, (exec x s).2) := by
  rw [exec_bind]
  generalize exec x s = out
  obtain ⟨e | a, s'⟩ := out <;> rfl

@[simp] theorem exec_lift (x : StateM Session α) (s : Session) :
    exec (ExceptT.lift x : Run α) s = (.ok (x s).1, (x s).2) := rfl

@[simp] theorem exec_checked (r : Except Misuse α) (s : Session) :
    exec (Session.checked r) s = (r.mapError .misuse, s) := rfl

@[simp] theorem exec_accepted (r : Except Rejection α) (s : Session) :
    exec (Session.accepted r) s = (r.mapError .rejected, s) := rfl

@[simp] theorem exec_ensured (r : Except Fault α) (s : Session) :
    exec (Session.ensured r) s = (r, s) := rfl

theorem exec_checked_of_ok {r : Except Misuse α} {a : α} (h : r = .ok a) (s : Session) :
    exec (Session.checked r) s = (.ok a, s) := by
  rw [exec_checked, h, mapError_ok]

theorem exec_accepted_of_ok {r : Except Rejection α} {a : α} (h : r = .ok a) (s : Session) :
    exec (Session.accepted r) s = (.ok a, s) := by
  rw [exec_accepted, h, mapError_ok]

theorem exec_ensured_of_ok {r : Except Fault α} {a : α} (h : r = .ok a) (s : Session) :
    exec (Session.ensured r) s = (.ok a, s) := by
  rw [exec_ensured, h]

theorem exec_drawing (d : Drawing α) (s : Session) :
    exec (Session.drawing d) s =
      ((d.run.run s.ids).1.mapError .misuse, { s with ids := (d.run.run s.ids).2 }) := rfl

end Run

/-! ### Clients -/

namespace Client

/-- A call, its reply, and what is made of it. -/
theorem attempt_eq (c : Client) (r : Request) (s : Session) :
    c.attempt r s = (outcome r (s.reply 0), s.after [c.call r]) := by
  have h := Session.exchange_eq (c.call r) s
  show (outcome r (Session.exchange (c.call r) s).1, (Session.exchange (c.call r) s).2) = _
  rw [h]

theorem exec_send (c : Client) (r : Request) (s : Session) :
    (c.send r).exec s = (outcome r (s.reply 0), s.after [c.call r]) :=
  c.attempt_eq r s

/-- Properties that can be written as fields go out in one call. -/
theorem exec_updateProperties (c : Client) {form properties : Value} {text : String}
    {fields : List (String × String)} (hform : form.render = .ok text)
    (hfields : properties.formFields "properties" = .ok fields) (s : Session) :
    (c.updateProperties form properties).exec s =
      (outcome (.updateProperties text fields) (s.reply 0),
        s.after [c.call (.updateProperties text fields)]) := by
  unfold updateProperties
  rw [Run.exec_bind_ok (Run.exec_checked_of_ok hform s),
    Run.exec_bind_ok (Run.exec_checked_of_ok hfields s), exec_send]

/-- What went wrong with a call, if it failed. -/
def failure? (r : Request) (reply : Reply) : Option ProviderError :=
  if reply.succeeds then none
  else some ⟨r.operation, reply.errorStatus?, reply.errorText?⟩

/-- What a call makes of a reply: a value, the failure of the call, or an error that is none of the
provider. -/
theorem outcome_cases (r : Request) (reply : Reply) :
    (reply.succeeds ∧ ∃ v, reply.answer = .ok v ∧ outcome r reply = .ok v) ∨
      (reply.succeeds = false ∧ reply.isUnreadable = false ∧
        outcome r reply =
          .error (.provider ⟨r.operation, reply.errorStatus?, reply.errorText?⟩)) ∨
      (reply.succeeds = false ∧ reply.isUnreadable ∧ ∃ cause,
        reply.answer = .error (.unreadable cause) ∧ outcome r reply = .error (.literal cause)) := by
  unfold outcome Reply.succeeds Reply.isUnreadable
  rcases reply.answer_cases with ⟨v, h⟩ | h | ⟨cause, h⟩
  · exact Or.inl ⟨by rw [h], v, h, by rw [h]; rfl⟩
  · exact Or.inr (Or.inl ⟨by rw [h], by rw [h], by rw [h]; rfl⟩)
  · exact Or.inr (Or.inr ⟨by rw [h], by rw [h], cause, h, by rw [h]; rfl⟩)

end Client

/-! ### Publishers -/

namespace Publisher

theorem exec_openClient (p : Publisher) (key : Value) (s : Session) :
    (p.openClient key).exec s =
      (.ok { apiKey := key, apiUrl := p.apiUrl, timeout := p.timeout },
        { s with clientKeys := s.clientKeys ++ [key] }) := rfl

/-- A failure as the failure of a whole operation. -/
def blame (operation : Operation) : Except Fault α → Except Fault α
  | .error (.provider e) => .error (.provider { e with operation })
  | outcome => outcome

theorem exec_during (operation : Operation) (r : Run α) (s : Session) :
    (during operation r).exec s = (blame operation (r.exec s).1, (r.exec s).2) := by
  unfold during Run.exec
  show (do
    match ← r.run with
    | .error (.provider e) => return .error (.provider { e with operation })
    | outcome => return outcome : StateM Session (Except Fault α)).run s = _
  -- The session is that of the run itself, whatever is made of its outcome.
  rw [StateT.run_bind]
  generalize r.run.run s = out
  obtain ⟨res, s'⟩ := out
  cases res with
  | ok a => rfl
  | error e => cases e <;> rfl

end Publisher

end FormPublisher
