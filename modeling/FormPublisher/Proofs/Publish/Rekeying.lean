import FormPublisher.Proofs.Publish.Bodies
import FormPublisher.Proofs.Publish.Creation

/-!
# The key of a request

The key that a request has of its own goes before the configured one and into every call of the
request, and it does nothing else (`fromBody_differsInKey`): put another key into the body, and
configure another one, and the outcome is the same, with the same calls under the other key.

Two runs whose sessions differ in the key only are followed side by side (`Run.SameButKey`).  This
holds of what does not touch the session, of a call by clients that differ in the key only, and of
runs that are put together from such runs; hence of every handler.  The body itself comes in only at
the end: its key is the key of what is read out of it and nothing else (`Document.read_withKey`,
`UpdateRequest.read_withKey`).
-/

namespace FormPublisher

variable {α β ρ : Type}

/-! ### Other keys -/

/-- The same call with a key. -/
def Call.withKey (c : Call) (key : Value) : Call := { c with apiKey := key }

/-- The same client with a key. -/
def Client.withKey (c : Client) (key : Value) : Client := { c with apiKey := key }

theorem Client.call_withKey (c : Client) (key : Value) (r : Request) :
    (c.withKey key).call r = (c.call r).withKey key := rfl

/-- Two sessions that go on from one, the first with one key and the second with another: the
clients opened and the calls made since then differ in the key, and nothing else does. -/
structure Session.Rekeyed (start : Session) (k₁ k₂ : Value) (s t : Session) : Prop where
  ids : s.ids = t.ids
  replies : s.replies = t.replies
  otherwise : s.otherwise = t.otherwise
  calls : ∃ made : List Call, s.calls = start.calls ++ made.map (·.withKey k₁) ∧
    t.calls = start.calls ++ made.map (·.withKey k₂)
  clientKeys : ∃ n, s.clientKeys = start.clientKeys ++ List.replicate n k₁ ∧
    t.clientKeys = start.clientKeys ++ List.replicate n k₂

/-- Two outcomes of a run that differ in the key that their calls are made with, and in nothing
else. -/
structure DiffersInKey (start : Session) (k₁ k₂ : Value) (out out' : Except Fault α × Session) :
    Prop where
  answer : out.1 = out'.1
  session : start.Rekeyed k₁ k₂ out.2 out'.2

namespace Session.Rekeyed

variable {start s t : Session} {k₁ k₂ : Value}

theorem refl (s : Session) (k₁ k₂ : Value) : s.Rekeyed k₁ k₂ s s where
  ids := rfl
  replies := rfl
  otherwise := rfl
  calls := ⟨[], by simp⟩
  clientKeys := ⟨0, by simp⟩

theorem reply (h : start.Rekeyed k₁ k₂ s t) (i : Nat) : s.reply i = t.reply i := by
  rw [Session.reply, Session.reply, h.replies, h.otherwise]

/-- A call with one key in the first session, and with the other in the second. -/
theorem after (h : start.Rekeyed k₁ k₂ s t) (call : Call) :
    start.Rekeyed k₁ k₂ (s.after [call.withKey k₁]) (t.after [call.withKey k₂]) where
  ids := h.ids
  replies := congrArg (List.drop 1) h.replies
  otherwise := h.otherwise
  calls := by
    obtain ⟨made, hs, ht⟩ := h.calls
    refine ⟨made ++ [call], ?_, ?_⟩
    · rw [calls_after, hs, List.map_append, List.append_assoc, List.map_singleton]
    · rw [calls_after, ht, List.map_append, List.append_assoc, List.map_singleton]
  clientKeys := h.clientKeys

/-- A client with one key in the first session, and with the other in the second. -/
theorem opened (h : start.Rekeyed k₁ k₂ s t) :
    start.Rekeyed k₁ k₂ (s.opened k₁) (t.opened k₂) where
  ids := h.ids
  replies := h.replies
  otherwise := h.otherwise
  calls := h.calls
  clientKeys := by
    obtain ⟨n, hs, ht⟩ := h.clientKeys
    refine ⟨n + 1, ?_, ?_⟩
    · rw [Session.opened, hs, List.replicate_succ', List.append_assoc]
    · rw [Session.opened, ht, List.replicate_succ', List.append_assoc]

/-- The same identifiers are left in both sessions. -/
theorem withIds (h : start.Rekeyed k₁ k₂ s t) (ids : IdSupply) :
    start.Rekeyed k₁ k₂ { s with ids } { t with ids } where
  ids := rfl
  replies := h.replies
  otherwise := h.otherwise
  calls := h.calls
  clientKeys := h.clientKeys

end Session.Rekeyed

/-- A key that counts as present goes before the configured one. -/
theorem resolveKey_some {key : Value} (h : key.isTruthy) (configured : Value) :
    resolveKey (some key) configured = .ok key := by
  simp [resolveKey, Value.present?, h]

/-- The same failure counts as the failure of the same operation. -/
theorem DiffersInKey.blame {start : Session} {k₁ k₂ : Value}
    {out out' : Except Fault α × Session} (h : DiffersInKey start k₁ k₂ out out')
    (operation : Operation) :
    DiffersInKey start k₁ k₂ (Publisher.blame operation out.1, out.2)
      (Publisher.blame operation out'.1, out'.2) :=
  ⟨congrArg (Publisher.blame operation) h.answer, h.session⟩

/-! ### Runs side by side -/

/-- Two runs that keep sessions alike but for the key, and end alike. -/
def Run.SameButKey (k₁ k₂ : Value) (x y : Run α) : Prop :=
  ∀ start s t, Session.Rekeyed start k₁ k₂ s t → DiffersInKey start k₁ k₂ (x.exec s) (y.exec t)

namespace Run

variable {k₁ k₂ : Value}

/-- A run that leaves the session alone. -/
theorem sameButKey_of_still {x : Run α} {out : Except Fault α} (h : ∀ s, x.exec s = (out, s)) :
    SameButKey k₁ k₂ x x := by
  intro start s t hst
  rw [h, h]
  exact ⟨rfl, hst⟩

theorem sameButKey_pure (a : α) : SameButKey k₁ k₂ (pure a) (pure a) :=
  sameButKey_of_still fun _ => rfl

theorem sameButKey_throw (e : Fault) : SameButKey k₁ k₂ (throw e : Run α) (throw e) :=
  sameButKey_of_still fun _ => rfl

theorem sameButKey_checked (r : Except Misuse α) :
    SameButKey k₁ k₂ (Session.checked r) (Session.checked r) :=
  sameButKey_of_still (exec_checked r)

theorem sameButKey_accepted (r : Except Rejection α) :
    SameButKey k₁ k₂ (Session.accepted r) (Session.accepted r) :=
  sameButKey_of_still (exec_accepted r)

theorem sameButKey_ensured (r : Except Fault α) :
    SameButKey k₁ k₂ (Session.ensured r) (Session.ensured r) :=
  sameButKey_of_still (exec_ensured r)

/-- Identifiers are drawn from the same supply. -/
theorem sameButKey_drawing (d : Drawing α) :
    SameButKey k₁ k₂ (Session.drawing d) (Session.drawing d) := by
  intro start s t hst
  rw [exec_drawing, exec_drawing, ← hst.ids]
  exact ⟨rfl, hst.withIds _⟩

theorem SameButKey.bind {x y : Run α} {f g : α → Run β} (hxy : SameButKey k₁ k₂ x y)
    (hfg : ∀ a, SameButKey k₁ k₂ (f a) (g a)) : SameButKey k₁ k₂ (x >>= f) (y >>= g) := by
  intro start s t hst
  obtain ⟨hanswer, hsession⟩ := hxy start s t hst
  cases hx : x.exec s with
  | mk r s' =>
    cases hy : y.exec t with
    | mk r' t' =>
      rw [hx, hy] at hanswer hsession
      obtain rfl : r = r' := hanswer
      cases r with
      | error fault =>
        rw [exec_bind_error hx, exec_bind_error hy]
        exact ⟨rfl, hsession⟩
      | ok a =>
        rw [exec_bind_ok hx, exec_bind_ok hy]
        exact hfg a start s' t' hsession

end Run

/-! ### Clients -/

namespace Client

variable (c : Client) (k₁ k₂ : Value)

/-- The same call is made with either key, and the replies are the same. -/
theorem sameButKey_attempt (r : Request) :
    Run.SameButKey k₁ k₂ (ExceptT.lift ((c.withKey k₁).attempt r))
      (ExceptT.lift ((c.withKey k₂).attempt r)) := by
  intro start s t hst
  rw [Run.exec_lift, Run.exec_lift, attempt_eq, attempt_eq, call_withKey, call_withKey, hst.reply]
  exact ⟨rfl, hst.after _⟩

theorem sameButKey_send (r : Request) :
    Run.SameButKey k₁ k₂ ((c.withKey k₁).send r) ((c.withKey k₂).send r) := by
  intro start s t hst
  rw [exec_send, exec_send, call_withKey, call_withKey, hst.reply]
  exact ⟨rfl, hst.after _⟩

theorem sameButKey_updateProperties (form properties : Value) :
    Run.SameButKey k₁ k₂ ((c.withKey k₁).updateProperties form properties)
      ((c.withKey k₂).updateProperties form properties) :=
  (Run.sameButKey_checked _).bind fun _ =>
    (Run.sameButKey_checked _).bind fun _ => c.sameButKey_send k₁ k₂ _

theorem sameButKey_addQuestions (form questions : Value) :
    Run.SameButKey k₁ k₂ ((c.withKey k₁).addQuestions form questions)
      ((c.withKey k₂).addQuestions form questions) :=
  (Run.sameButKey_checked _).bind fun _ =>
    (Run.sameButKey_checked _).bind fun _ => c.sameButKey_send k₁ k₂ _

/-- Changes to questions are made one after another with either key. -/
theorem sameButKey_runSteps (abort : Bool) (form : String) (us : List QuestionUpdate) :
    Run.SameButKey k₁ k₂ (runSteps (c.withKey k₁) abort form us)
      (runSteps (c.withKey k₂) abort form us) := by
  induction us with
  | nil => exact Run.sameButKey_pure []
  | cons u us ih =>
    have hrest (step : Step) :
        Run.SameButKey k₁ k₂ (do return step :: (← runSteps (c.withKey k₁) abort form us))
          (do return step :: (← runSteps (c.withKey k₂) abort form us)) :=
      ih.bind fun _ => Run.sameButKey_pure _
    rw [runSteps, runSteps]
    refine (Run.sameButKey_checked _).bind fun asked => ?_
    -- Both runs see the same reply, so they go on together or end together.
    rcases asked with _ | ⟨action, request⟩
    · exact ih
    · refine (c.sameButKey_attempt k₁ k₂ request).bind fun outcome => ?_
      rcases outcome with fault | v
      · cases fault with
        | provider e =>
          cases abort with
          | true => exact Run.sameButKey_throw _
          | false => exact hrest _
        | _ => exact Run.sameButKey_throw _
      · exact hrest _

end Client

/-! ### Requests -/

theorem Document.compile_withKey (d : Document) (key : Option Value) :
    { d with apiKey := key }.compile = d.compile := rfl

theorem Document.payload_withKey (d : Document) (key : Option Value) :
    { d with apiKey := key }.payload = d.payload := rfl

namespace Publisher

variable (p : Publisher) (k₁ k₂ : Value)

/-- Every kind of change is made with either key. -/
theorem sameButKey_handle (kind : UpdateKind) (form : String) (u : UpdateRequest) :
    Run.SameButKey k₁ k₂ (p.handle kind k₁ form u) (p.handle kind k₂ form u) := by
  have hclient (key : Value) : p.client key = (p.client .null).withKey key := rfl
  cases kind with
  | properties =>
    show Run.SameButKey k₁ k₂ (updateProperties (p.client k₁) form u)
      (updateProperties (p.client k₂) form u)
    rw [hclient k₁, hclient k₂]
    refine (Run.sameButKey_accepted _).bind fun properties => ?_
    cases properties with
    | none => exact Run.sameButKey_throw _
    | some es =>
      exact (Client.sameButKey_updateProperties _ k₁ k₂ _ _).bind fun _ => Run.sameButKey_pure _
  | questions =>
    show Run.SameButKey k₁ k₂ (updateQuestions (p.client k₁) p.abortOnFailure form u)
      (updateQuestions (p.client k₂) p.abortOnFailure form u)
    rw [hclient k₁, hclient k₂]
    refine (Run.sameButKey_ensured _).bind fun updates => ?_
    refine (Run.sameButKey_accepted _).bind fun new => ?_
    refine (Client.sameButKey_runSteps _ k₁ k₂ _ _ _).bind fun steps => ?_
    cases new.isEmpty with
    | true => exact Run.sameButKey_pure _
    | false =>
      exact (Client.sameButKey_addQuestions _ k₁ k₂ _ _).bind fun _ => Run.sameButKey_pure _
  | conditions =>
    show Run.SameButKey k₁ k₂ (updateConditions (p.client k₁) form u)
      (updateConditions (p.client k₂) form u)
    rw [hclient k₁, hclient k₂]
    refine (Run.sameButKey_ensured _).bind fun conditions => ?_
    cases conditions with
    | none => exact Run.sameButKey_throw _
    | some cs =>
      refine (Run.sameButKey_drawing _).bind fun text => ?_
      exact (Client.sameButKey_updateProperties _ k₁ k₂ _ _).bind fun _ => Run.sameButKey_pure _

theorem handle_withKey (configured : Value) (kind : UpdateKind) (key : Value) (form : String)
    (u : UpdateRequest) (own : Option Value) :
    { p with configuredKey := configured }.handle kind key form { u with apiKey := own } =
      p.handle kind key form u := by
  cases kind <;> rfl

/-- Whether a request passes its checks does not hang on its key. -/
theorem exists_checked_withKey (u : UpdateRequest) :
    ∃ target : Except Rejection (String × UpdateKind), ∀ key : Value, key.isTruthy → ∀ c,
      { p with configuredKey := c }.checked { u with apiKey := some key } =
        (fun t => (key, t)) <$> target := by
  -- The key is looked for first and always found; what is checked after it is something else.
  cases hform : u.formId.filter (· ≠ "") with
  | none =>
    refine ⟨.error .noFormId, fun key h c => ?_⟩
    simp only [checked, resolveKey_some h, ok_bind, hform, map_error]
  | some form =>
    cases hkind : UpdateKind.ofValue? u.kind with
    | none =>
      refine ⟨.error .unknownUpdate, fun key h c => ?_⟩
      simp only [checked, resolveKey_some h, ok_bind, hform, hkind, map_error]
    | some kind =>
      refine ⟨.ok (form, kind), fun key h c => ?_⟩
      simp only [checked, resolveKey_some h, ok_bind, hform, hkind, map_ok]

section Requests

variable {k₁ k₂ : Value} (h₁ : k₁.isTruthy) (h₂ : k₂.isTruthy) (c₁ c₂ : Value)
include h₁ h₂

/-- A document is made into a form with its own key, whatever the key is. -/
theorem differsInKey_createForm (d : Document) (s : Session) :
    DiffersInKey s k₁ k₂
      (({ p with configuredKey := c₁ }.createForm { d with apiKey := some k₁ }).exec s)
      (({ p with configuredKey := c₂ }.createForm { d with apiKey := some k₂ }).exec s) := by
  cases hcompile : d.compile with
  | error e =>
    have hexec {key : Value} (h : key.isTruthy) (c : Value) :
        ({ p with configuredKey := c }.createForm { d with apiKey := some key }).exec s =
          (.error (.misuse e), s) :=
      exec_createForm_of_error (resolveKey_some h c) (by rw [Document.compile_withKey, hcompile]) s
    rw [hexec h₁, hexec h₂]
    exact ⟨rfl, .refl s k₁ k₂⟩
  | ok form =>
    obtain ⟨payload, ids, hassemble⟩ := Document.exists_run_assemble hcompile s.ids
    have hpayload : d.payload.run.run s.ids = (.ok payload, ids) :=
      (Document.run_payload_of_ok hcompile s.ids).trans hassemble
    let call := p.creationCall .null payload.toValue
    have hexec {key : Value} (h : key.isTruthy) (c : Value) :
        ({ p with configuredKey := c }.createForm { d with apiKey := some key }).exec s =
          (creationOutcome (s.reply 0), ({ s with ids }.opened key).after [call.withKey key]) :=
      exec_createForm_of_ok (resolveKey_some h c) (by rw [Document.payload_withKey, hpayload])
    rw [hexec h₁, hexec h₂]
    exact ⟨rfl, (((Session.Rekeyed.refl s k₁ k₂).withIds ids).opened).after call⟩

/-- A request to change a form is carried out with its own key, whatever the key is. -/
theorem differsInKey_updateForm (u : UpdateRequest) (s : Session) :
    DiffersInKey s k₁ k₂
      (({ p with configuredKey := c₁ }.updateForm { u with apiKey := some k₁ }).exec s)
      (({ p with configuredKey := c₂ }.updateForm { u with apiKey := some k₂ }).exec s) := by
  obtain ⟨target, htarget⟩ := p.exists_checked_withKey u
  cases target with
  | error cause =>
    have hexec {key : Value} (h : key.isTruthy) (c : Value) :
        ({ p with configuredKey := c }.updateForm { u with apiKey := some key }).exec s =
          (.error (.rejected cause), s) := exec_updateForm_of_error (htarget key h c) s
    rw [hexec h₁, hexec h₂]
    exact ⟨rfl, .refl s k₁ k₂⟩
  | ok target =>
    obtain ⟨form, kind⟩ := target
    have hexec {key : Value} (h : key.isTruthy) (c : Value) :
        ({ p with configuredKey := c }.updateForm { u with apiKey := some key }).exec s =
          (blame .updateForm ((p.handle kind key form u).exec (s.opened key)).1,
            ((p.handle kind key form u).exec (s.opened key)).2) := by
      rw [exec_updateForm (htarget key h c), handle_withKey]
    rw [hexec h₁, hexec h₂]
    have hopened := (Session.Rekeyed.refl s k₁ k₂).opened
    exact (p.sameButKey_handle k₁ k₂ kind form u s _ _ hopened).blame .updateForm

end Requests

end Publisher

/-! ### Bodies -/

/-- Two computations that go on in ways that are the same up to a function. -/
theorem bind_eq_map_bind {ε : Type} {x : Except ε α} {f g : α → Except ε β} {h : β → β}
    (hfg : ∀ a, f a = h <$> g a) : x >>= f = h <$> (x >>= g) := by
  cases x with
  | error e => rfl
  | ok a => exact hfg a

namespace Entries

variable {key s : String} (v : Value) (es : Entries)

theorem get_put_self (s : String) : get (put (.text s) v es) s = v := by
  rw [get, get?_put, if_pos rfl]
  rfl

theorem get?_put_of_ne (h : key ≠ s) : get? key (put (.text s) v es) = get? key es := by
  rw [get?_put, if_neg h]

theorem get_put_of_ne (h : key ≠ s) : get (put (.text s) v es) key = get es key := by
  rw [get, get?_put_of_ne v es h]
  rfl

/-- The object with a key of its own. -/
def withKey (es : Entries) (key : Value) : Entries := put (.text "apiKey") key es

theorem present?_withKey {key : Value} (h : key.isTruthy) :
    present? (withKey es key) "apiKey" = some key := by
  rw [present?, withKey, get_put_self, Value.present?, if_pos h]

end Entries

section Bodies

variable {key : Value} (h : key.isTruthy) (data : Entries)
include h

theorem bodyKey_withKey : bodyKey (.map (data.withKey key)) = some key :=
  Entries.present?_withKey data h

theorem isTruthy_keyFor_withKey (configured : Value) :
    (keyFor configured (.map (data.withKey key))).isTruthy := by
  rw [keyFor_of_map rfl, Entries.withKey, Entries.get_put_self, if_pos h]
  exact h

/-- The key of an object is the key of the document in it, and nothing else of the document. -/
theorem Document.read_withKey :
    read (.map (data.withKey key)) =
      (fun d => { d with apiKey := some key }) <$> read (.map data) := by
  have hkey := Entries.present?_withKey data h
  show ofEntries (data.withKey key) = _ <$> ofEntries data
  unfold Entries.present? Entries.withKey at hkey
  unfold ofEntries Entries.withKey
  simp (disch := decide) only [Entries.mappingAt, Entries.entriesAt, Entries.flag,
    Entries.present?, Visibility.read, Entries.get_put_of_ne, Entries.get?_put_of_ne, hkey]
  -- Every section is read out of the same values, up to the notification, which may be missing.
  iterate 12 refine bind_eq_map_bind fun _ => ?_
  refine bind_eq_map_bind fun email => ?_
  cases email with
  | none => exact bind_eq_map_bind fun _ => bind_eq_map_bind fun _ => rfl
  | some es => exact bind_eq_map_bind fun _ => bind_eq_map_bind fun _ => rfl

/-- The key of an object is the key of the request in it, and nothing else of the request. -/
theorem UpdateRequest.read_withKey :
    read (.map (data.withKey key)) =
      (fun u => { u with apiKey := some key }) <$> read (.map data) := by
  have hkey := Entries.present?_withKey data h
  show (ofEntries (data.withKey key)).mapError Fault.misuse =
    _ <$> (ofEntries data).mapError Fault.misuse
  unfold Entries.present? Entries.withKey at hkey
  unfold ofEntries Entries.withKey
  simp (disch := decide) only [Entries.present?, Entries.get_put_of_ne, hkey]
  cases renderOptional ((Entries.get data "formId").present?) with
  | error e => rfl
  | ok form => rfl

end Bodies

/-- What is read is the same on both sides, and what is done with it differs in the key. -/
theorem differsInKey_readThenAct {k₁ k₂ : Value} {s : Session} {act act' : ρ → Run α}
    (h : ∀ r, DiffersInKey s k₁ k₂ ((act r).exec s) ((act' r).exec s)) (read : Except Fault ρ) :
    DiffersInKey s k₁ k₂ ((readThenAct read act).exec s) ((readThenAct read act').exec s) := by
  cases read with
  | error fault => exact ⟨rfl, .refl s k₁ k₂⟩
  | ok r => exact h r

namespace Publisher

theorem exec_createFromBody_withKey {key : Value} (h : key.isTruthy) (p : Publisher)
    (data : Entries) (s : Session) :
    (p.createFromBody (.map (data.withKey key))).exec s =
      (readThenAct (Document.read (.map data)) fun d =>
        p.createForm { d with apiKey := some key }).exec s := by
  rw [exec_createFromBody_eq, if_pos (isTruthy_keyFor_withKey h data _),
    Document.read_withKey h data]
  cases Document.read (.map data) <;> rfl

theorem exec_updateFromBody_withKey {key : Value} (h : key.isTruthy) (p : Publisher)
    (data : Entries) (s : Session) :
    (p.updateFromBody (.map (data.withKey key))).exec s =
      (readThenAct (UpdateRequest.read (.map data)) fun u =>
        p.updateForm { u with apiKey := some key }).exec s := by
  rw [exec_updateFromBody_eq, bodyKey_withKey h data, resolveKey_some h,
    UpdateRequest.read_withKey h data]
  cases UpdateRequest.read (.map data) <;> rfl

/-- Two bodies that differ in their key only, under settings that differ in the configured key only,
end alike, with the same calls under their own keys. -/
theorem fromBody_differsInKey (p : Publisher) {k₁ k₂ : Value} (h₁ : k₁.isTruthy)
    (h₂ : k₂.isTruthy) (c₁ c₂ : Value) (data : Entries) (s : Session) :
    DiffersInKey s k₁ k₂
        (({ p with configuredKey := c₁ }.createFromBody (.map (data.withKey k₁))).exec s)
        (({ p with configuredKey := c₂ }.createFromBody (.map (data.withKey k₂))).exec s) ∧
      DiffersInKey s k₁ k₂
        (({ p with configuredKey := c₁ }.updateFromBody (.map (data.withKey k₁))).exec s)
        (({ p with configuredKey := c₂ }.updateFromBody (.map (data.withKey k₂))).exec s) := by
  constructor
  · rw [exec_createFromBody_withKey h₁, exec_createFromBody_withKey h₂]
    exact differsInKey_readThenAct (fun d => p.differsInKey_createForm h₁ h₂ c₁ c₂ d s) _
  · rw [exec_updateFromBody_withKey h₁, exec_updateFromBody_withKey h₂]
    exact differsInKey_readThenAct (fun u => p.differsInKey_updateForm h₁ h₂ c₁ c₂ u s) _

/-- A body is carried out with one key and then with another. -/
theorem fromBody_differsInKey_of_two_keys :
    let p : Publisher := {}
    let data : Entries := [(.text "formId", .text "7"), (.text "apiKey", .text "old"),
      (.text "updateType", .text "questions"), (.text "questionUpdates", .list [
        .object [("questionId", .text "1"), ("action", .text "delete")],
        .object [("questionId", .text "2"), ("action", .text "delete")]])]
    let s : Session := { replies := [.response 404 "", .response 200 "null"] }
    let update (configured key : Value) :=
      ({ p with configuredKey := configured }.updateFromBody (.map (data.withKey key))).exec s
    let create (configured key : Value) :=
      ({ p with configuredKey := configured }.createFromBody (.map (data.withKey key))).exec s
    DiffersInKey s (.text "a") (.text "b") (create .null (.text "a"))
        (create (.text "c") (.text "b")) ∧
      DiffersInKey s (.text "a") (.text "b") (update .null (.text "a"))
        (update (.text "c") (.text "b")) ∧
      (create (.text "c") (.text "b")).2.calls.map (·.apiKey) = [.text "b"] ∧
      (update .null (.text "a")).2.calls.map (·.apiKey) = [.text "a", .text "a"] ∧
      (update (.text "c") (.text "b")).2.calls.map (·.apiKey) = [.text "b", .text "b"] := by
  intro p data s update create
  have ha : (Value.text "a").isTruthy := rfl
  have hb : (Value.text "b").isTruthy := rfl
  have h := p.fromBody_differsInKey ha hb .null (.text "c") data s
  exact ⟨h.1, h.2, rfl, rfl, rfl⟩

end Publisher

end FormPublisher
