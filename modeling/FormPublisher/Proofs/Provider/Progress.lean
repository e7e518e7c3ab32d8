import FormPublisher.Proofs.Provider.Exchange

/-!
# Runs past their checks

A run that is past its checks turns nothing down any more, and what it leaves can be told from the
calls that it makes: they are added to those made before, each of them takes one reply, and if the
provider is blamed then for the reply to the last of them (`Run.Proceeds`).  Putting runs together
keeps this (`Proceeds.bind`), and the methods of a client have it.
-/

namespace FormPublisher

variable {α β : Type}

/-! ### Sessions -/

namespace Session

/-- A session after others' calls: they are recorded in order, and each has used up one reply.
Only the supply of identifiers may have changed besides. -/
structure Follows (s : Session) (made : List Call) (s' : Session) : Prop where
  calls : s'.calls = s.calls ++ made
  replies : s'.replies = s.replies.drop made.length
  otherwise : s'.otherwise = s.otherwise
  clientKeys : s'.clientKeys = s.clientKeys

variable {s s' s'' : Session} {as bs : List Call}

theorem follows_refl (s : Session) : s.Follows [] s := ⟨by simp, by simp, rfl, rfl⟩

theorem follows_after (s : Session) (calls : List Call) : s.Follows calls (s.after calls) :=
  ⟨rfl, rfl, rfl, rfl⟩

theorem Follows.trans (h : s.Follows as s') (h' : s'.Follows bs s'') :
    s.Follows (as ++ bs) s'' where
  calls := by rw [h'.calls, h.calls, List.append_assoc]
  replies := by rw [h'.replies, h.replies, List.drop_drop, List.length_append]
  otherwise := h'.otherwise.trans h.otherwise
  clientKeys := h'.clientKeys.trans h.clientKeys

/-- Calls use up the replies in order. -/
theorem Follows.reply (h : s.Follows as s') (i : Nat) : s'.reply i = s.reply (as.length + i) := by
  simp [Session.reply, h.replies, h.otherwise, List.getD_eq_getElem?_getD]

end Session

/-! ### Faults -/

/-- A reply that leaves the status of an error says so itself and leaves its text, too. -/
theorem Reply.eq_response_of_errorStatus? {r : Reply} {n : Int} (h : r.errorStatus? = some n) :
    ∃ text, r = .response n text ∧ 400 ≤ n ∧ n < 600 ∧ r.errorText? = some text := by
  cases r with
  | fault => cases h
  | response status text =>
    rw [errorStatus?] at h
    by_cases hstatus : isError status = true
    · rw [if_pos hstatus] at h
      obtain rfl := Option.some.inj h
      have hbounds : 400 ≤ status ∧ status < 600 := by
        simpa [isError] using hstatus
      exact ⟨text, rfl, hbounds.1, hbounds.2, if_pos hstatus⟩
    · rw [if_neg hstatus] at h
      cases h

/-- What can go wrong after calls and past all checks: nothing is turned down, and the provider is
blamed for what its reply to the last call says. -/
def Fault.IsLeftBy (s : Session) (calls : List Call) : Fault → Prop
  | .rejected _ => False
  | .provider e => ∃ n, calls.length = n + 1 ∧ e.status = (s.reply n).errorStatus? ∧
      e.body = (s.reply n).errorText?
  | _ => True

theorem Fault.IsLeftBy.prepend {s s' : Session} {as bs : List Call} {fault : Fault}
    (h : fault.IsLeftBy s' bs) (hs : s.Follows as s') : fault.IsLeftBy s (as ++ bs) := by
  cases fault with
  | rejected cause => exact h
  | provider e =>
    obtain ⟨n, hlength, hstatus, hbody⟩ := h
    refine ⟨as.length + n, ?_, ?_, ?_⟩
    · rw [List.length_append, hlength, Nat.add_assoc]
    · rw [hstatus, hs.reply]
    · rw [hbody, hs.reply]
  | _ => trivial

/-! ### Runs -/

/-- A run that is past its checks, whatever the session. -/
def Run.Proceeds (x : Run α) : Prop :=
  ∀ s, ∃ calls, s.Follows calls (x.exec s).2 ∧
    ∀ fault, (x.exec s).1 = .error fault → fault.IsLeftBy s calls

namespace Run

theorem proceeds_pure (a : α) : Proceeds (pure a) := by
  intro s
  refine ⟨[], s.follows_refl, fun fault h => ?_⟩
  cases h

theorem proceeds_checked (r : Except Misuse α) : Proceeds (Session.checked r) := by
  intro s
  refine ⟨[], s.follows_refl, fun fault h => ?_⟩
  rw [exec_checked] at h
  cases r with
  | ok a => cases h
  | error e =>
    obtain rfl := Except.error.inj h
    trivial

theorem proceeds_drawing (d : Drawing α) : Proceeds (Session.drawing d) := by
  intro s
  rw [exec_drawing]
  refine ⟨[], ⟨by simp, by simp, rfl, rfl⟩, fun fault h => ?_⟩
  dsimp only at h
  cases hdraw : (d.run.run s.ids).1 with
  | ok a =>
    rw [hdraw] at h
    cases h
  | error e =>
    rw [hdraw] at h
    obtain rfl := Except.error.inj h
    trivial

/-- A run whose parts are past their checks is past its own. -/
theorem Proceeds.bind {x : Run α} {f : α → Run β} (hx : x.Proceeds) (hf : ∀ a, (f a).Proceeds) :
    Proceeds (x >>= f) := by
  intro s
  obtain ⟨as, hs, hfault⟩ := hx s
  cases hout : x.exec s with
  | mk r s' =>
    rw [hout] at hs hfault
    cases r with
    | error e =>
      rw [exec_bind_error hout]
      exact ⟨as, hs, fun fault h => hfault fault (by rw [← Except.error.inj h])⟩
    | ok a =>
      rw [exec_bind_ok hout]
      obtain ⟨bs, hs', hfault'⟩ := hf a s'
      exact ⟨as ++ bs, hs.trans hs', fun fault h => (hfault' fault h).prepend hs⟩

end Run

/-! ### Whole operations -/

namespace Publisher

theorem operation_of_blame {operation : Operation} {out : Except Fault α} {e : ProviderError}
    (h : blame operation out = .error (.provider e)) : e.operation = operation := by
  cases out with
  | ok a => cases h
  | error fault =>
    cases fault with
    | provider e' =>
      obtain rfl := Fault.provider.inj (Except.error.inj h)
      rfl
    | _ => cases h

/-- The provider is blamed for the same reply when a whole operation fails. -/
theorem isLeftBy_of_blame {operation : Operation} {out : Except Fault α} {s : Session}
    {calls : List Call} (hout : ∀ fault, out = .error fault → fault.IsLeftBy s calls)
    {fault : Fault} (h : blame operation out = .error fault) : fault.IsLeftBy s calls := by
  cases out with
  | ok a => cases h
  | error fault' =>
    have hleft := hout fault' rfl
    cases fault' with
    | rejected cause => exact hleft.elim
    | provider e =>
      obtain rfl := Except.error.inj h
      exact hleft
    | _ =>
      obtain rfl := Except.error.inj h
      trivial

end Publisher

theorem Run.Proceeds.during {x : Run α} (hx : x.Proceeds) (operation : Operation) :
    (Publisher.during operation x).Proceeds := by
  intro s
  obtain ⟨calls, hs, hfault⟩ := hx s
  rw [Publisher.exec_during]
  exact ⟨calls, hs, fun _ h => Publisher.isLeftBy_of_blame hfault h⟩

/-! ### Clients -/

namespace Client

/-- What a call leaves is told by its reply. -/
theorem isLeftBy_of_outcome {r : Request} {s : Session} {fault : Fault}
    (h : outcome r (s.reply 0) = .error fault) (call : Call) : fault.IsLeftBy s [call] := by
  rcases outcome_cases r (s.reply 0) with ⟨-, v, -, hout⟩ | ⟨-, -, hout⟩ | ⟨-, -, cause, -, hout⟩
  · rw [hout] at h
    cases h
  · rw [hout] at h
    obtain rfl := Except.error.inj h
    exact ⟨0, rfl, rfl, rfl⟩
  · rw [hout] at h
    obtain rfl := Except.error.inj h
    trivial

theorem proceeds_send (c : Client) (r : Request) : (c.send r).Proceeds := by
  intro s
  rw [exec_send]
  exact ⟨[c.call r], s.follows_after _, fun fault h => isLeftBy_of_outcome h _⟩

theorem proceeds_updateProperties (c : Client) (form properties : Value) :
    (c.updateProperties form properties).Proceeds :=
  (Run.proceeds_checked _).bind fun _ => (Run.proceeds_checked _).bind fun _ => c.proceeds_send _

theorem proceeds_addQuestions (c : Client) (form questions : Value) :
    (c.addQuestions form questions).Proceeds :=
  (Run.proceeds_checked _).bind fun _ => (Run.proceeds_checked _).bind fun _ => c.proceeds_send _

end Client

end FormPublisher
