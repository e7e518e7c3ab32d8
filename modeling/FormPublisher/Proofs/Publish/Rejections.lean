import FormPublisher.Proofs.Provider.Progress
import FormPublisher.Proofs.Publish.Keys
import FormPublisher.Proofs.Publish.Relevance
import FormPublisher.Proofs.Publish.Update
import FormPublisher.Proofs.Request.Update
import FormPublisher.Proofs.Value.Display

/-!
# When a request to change a form is turned down

The checks of a request come in a fixed order: its key, its shape, the form, the kind of change, and
the part for this kind.  `TurnedDown` says which of them a body fails first; what is looked at later
does not matter.  A JSON body is turned down exactly if it fails one of them
(`updateFromBody_rejected_iff`), and then before any call: a body that passes all of them is never
turned down afterwards, since its handler is past its checks (`proceeds_handle`).
-/

namespace FormPublisher

/-! ### Kinds of changes -/

namespace UpdateKind

/-- The name of a kind. -/
def name : UpdateKind → String
  | properties => "properties"
  | questions => "questions"
  | conditions => "conditions"

/-- A kind is named by its own name only. -/
theorem ofValue?_eq_some_iff {v : Value} {kind : UpdateKind} :
    ofValue? v = some kind ↔ v = .text kind.name := by
  constructor
  · intro h
    unfold ofValue? at h
    split at h
    all_goals cases h
    all_goals rfl
  · rintro rfl
    cases kind <;> rfl

theorem ofValue?_eq_none_iff {v : Value} :
    ofValue? v = none ↔ ∀ kind : UpdateKind, v ≠ .text kind.name := by
  rw [Option.eq_none_iff_forall_ne_some]
  exact forall_congr' fun kind => not_congr ofValue?_eq_some_iff

end UpdateKind

/-! ### The checks -/

/-- The part of a request for a kind of change is missing or is turned down. -/
inductive UpdateRequest.PayloadFails (u : UpdateRequest) : UpdateKind → Rejection → Prop
  | noProperties (h : u.properties = .null) : PayloadFails u .properties .noProperties
  | properties {cause : Rejection} (h : u.readProperties = .error cause) :
    PayloadFails u .properties cause
  | questionUpdates {cause : Rejection} (h : u.readQuestionUpdates = .error (.rejected cause)) :
    PayloadFails u .questions cause
  | newQuestions {updates : List QuestionUpdate} {cause : Rejection}
    (hupdates : u.readQuestionUpdates = .ok updates) (h : u.readNewQuestions = .error cause) :
    PayloadFails u .questions cause
  | noConditions (h : u.conditions = .null) : PayloadFails u .conditions .noConditions
  | conditions {cause : Rejection} (h : u.readConditions = .error (.rejected cause)) :
    PayloadFails u .conditions cause

/-- The first check that a body fails under a configured key, with the field that is named and the
keys of the clients that were opened before. -/
inductive TurnedDown (configured : Value) :
    Value → Rejection → Option String → List Value → Prop
  /-- The key comes first, whatever the body is. -/
  | noKey {body : Value} (hkey : (keyFor configured body).isTruthy = false) :
    TurnedDown configured body .noKey (some "apiKey") []
  /-- Only an object has anything else to be looked at. -/
  | notObject {body : Value} (hkey : (keyFor configured body).isTruthy)
    (hbody : ∀ data, body ≠ .map data) :
    TurnedDown configured body .bodyNotObject none []
  | noFormId {data : Entries} (hkey : (keyFor configured (.map data)).isTruthy)
    (hform : (data.get "formId").isTruthy = false) :
    TurnedDown configured (.map data) .noFormId (some "formId") []
  | unknownUpdate {data : Entries} (hkey : (keyFor configured (.map data)).isTruthy)
    (hform : (data.get "formId").isTruthy)
    (hkind : ∀ kind : UpdateKind, data.get "updateType" ≠ .text kind.name) :
    TurnedDown configured (.map data) .unknownUpdate (some "updateType") []
  /-- The part for the kind of change is read by a client's handler, so the key is noted. -/
  | payload {data : Entries} {kind : UpdateKind} {u : UpdateRequest} {cause : Rejection}
    (hkey : (keyFor configured (.map data)).isTruthy)
    (hform : (data.get "formId").isTruthy)
    (hkind : data.get "updateType" = .text kind.name)
    (hu : UpdateRequest.ofEntries data = .ok u) (h : u.PayloadFails kind cause) :
    TurnedDown configured (.map data) cause cause.field [keyFor configured (.map data)]

namespace UpdateRequest

variable {data : Entries} {u : UpdateRequest}

/-- The form that a request names is empty or missing exactly if its field does not count as
present. -/
theorem formId_filter_of_ofEntries (hdata : areJsonEntries data) (h : ofEntries data = .ok u) :
    (u.formId.filter (· ≠ "")).isSome = (data.get "formId").isTruthy := by
  obtain ⟨form, hform, h⟩ := bind_eq_ok_iff.mp h
  obtain rfl := Except.ok.inj h
  unfold Entries.present? Value.present? at hform
  by_cases ht : (data.get "formId").isTruthy = true
  · rw [if_pos ht, renderOptional, Option.mapM_some] at hform
    obtain ⟨text, htext, hsome⟩ := map_eq_ok_iff.mp hform
    have hjson := Entries.isJson_get hdata "formId"
    have hne : text ≠ "" := by
      rw [← (render_eq_ok_iff.mp htext).2, Ne, Value.display_eq_empty_iff hjson]
      intro hempty
      rw [hempty] at ht
      cases ht
    simp [← hsome, ht, hne]
  · rw [if_neg ht] at hform
    obtain rfl := Except.ok.inj hform
    simp [ht]

/-- A request none of whose parts for a kind of change fails can be read as far as this kind
needs. -/
theorem exists_of_not_payloadFails (hu : u.IsJson) {kind : UpdateKind}
    (h : ∀ cause, ¬ u.PayloadFails kind cause) :
    match kind with
    | .properties => ∃ es, u.readProperties = .ok (some es)
    | .questions =>
      ∃ updates new, u.readQuestionUpdates = .ok updates ∧ u.readNewQuestions = .ok new
    | .conditions => ∃ cs, u.readConditions = .ok (some cs) := by
  cases kind with
  | properties =>
    cases hread : u.readProperties with
    | error cause => exact absurd (.properties hread) (h cause)
    | ok properties =>
      cases properties with
      | some es => exact ⟨es, rfl⟩
      | none =>
        have hnull : u.properties = .null := by
          unfold readProperties mappingOf at hread
          rw [Value.opened_of_isJson hu.properties] at hread
          split at hread
          · assumption
          · cases hread
          · cases hread
        exact absurd (.noProperties hnull) (h _)
  | questions =>
    cases hupdates : u.readQuestionUpdates with
    | error fault =>
      obtain ⟨cause, rfl⟩ := onlyRejects_readQuestionUpdates hu fault hupdates
      exact absurd (.questionUpdates hupdates) (h cause)
    | ok updates =>
      cases hnew : u.readNewQuestions with
      | error cause => exact absurd (.newQuestions hupdates hnew) (h cause)
      | ok new => exact ⟨updates, new, rfl, rfl⟩
  | conditions =>
    cases hread : u.readConditions with
    | error fault =>
      obtain ⟨cause, rfl⟩ := onlyRejects_readConditions hu fault hread
      exact absurd (.conditions hread) (h cause)
    | ok conditions =>
      cases conditions with
      | some cs => exact ⟨cs, rfl⟩
      | none =>
        have hnull : u.conditions = .null := by
          unfold readConditions at hread
          split at hread
          · assumption
          · obtain ⟨_, -, hread⟩ := bind_eq_ok_iff.mp hread
            obtain ⟨_, -, hread⟩ := bind_eq_ok_iff.mp hread
            cases hread
        exact absurd (.noConditions hnull) (h _)

end UpdateRequest

/-! ### Runs past the checks -/

namespace Client

variable {α : Type}

/-- A call goes on with what it comes to, unless this is an error that ends the run. -/
theorem proceeds_attempt_bind (c : Client) (r : Request) {f : Except Fault Value → Run α}
    (h : ∀ reply, (f (outcome r reply)).Proceeds ∨
      ∃ fault, outcome r reply = .error fault ∧ f (outcome r reply) = throw fault) :
    Run.Proceeds (ExceptT.lift (c.attempt r) >>= f) := by
  intro s
  have hcall : Run.exec (ExceptT.lift (c.attempt r)) s =
      (.ok (outcome r (s.reply 0)), s.after [c.call r]) := by
    rw [Run.exec_lift, attempt_eq]
  rw [Run.exec_bind_ok hcall]
  rcases h (s.reply 0) with hproceeds | ⟨fault, hout, hthrow⟩
  · obtain ⟨calls, hs, hfault⟩ := hproceeds (s.after [c.call r])
    have hfirst := s.follows_after [c.call r]
    exact ⟨[c.call r] ++ calls, hfirst.trans hs, fun fault h => (hfault fault h).prepend hfirst⟩
  · rw [hthrow, Run.exec_throw]
    refine ⟨[c.call r], s.follows_after _, fun fault' h => ?_⟩
    obtain rfl := Except.error.inj h
    exact isLeftBy_of_outcome hout _

end Client

/-- Changes to questions are past their checks: a failed one is recorded or ends the run. -/
theorem proceeds_runSteps (c : Client) (abort : Bool) (form : String) (us : List QuestionUpdate) :
    (runSteps c abort form us).Proceeds := by
  induction us with
  | nil => exact Run.proceeds_pure []
  | cons u us ih =>
    rw [runSteps]
    refine (Run.proceeds_checked _).bind fun found => ?_
    cases found with
    | none => exact ih
    | some found =>
      obtain ⟨action, request⟩ := found
      refine c.proceeds_attempt_bind request fun reply => ?_
      cases hout : Client.outcome request reply with
      | ok v => exact Or.inl (ih.bind fun rest => Run.proceeds_pure _)
      | error fault =>
        cases fault with
        | provider e =>
          cases abort with
          | true => exact Or.inr ⟨_, rfl, rfl⟩
          | false => exact Or.inl (ih.bind fun rest => Run.proceeds_pure _)
        | _ => exact Or.inr ⟨_, rfl, rfl⟩

namespace Publisher

variable {u : UpdateRequest}

theorem proceeds_updateProperties (c : Client) (form : String) {es : Entries}
    (h : u.readProperties = .ok (some es)) : (updateProperties c form u).Proceeds := by
  have hrun : updateProperties c form u = (do
      let data ← c.updateProperties (.text form) (.map es)
      return { message := .properties, data }) := by
    unfold updateProperties
    rw [h]
    rfl
  rw [hrun]
  exact (c.proceeds_updateProperties _ _).bind fun data => Run.proceeds_pure _

theorem proceeds_updateQuestions (c : Client) (abort : Bool) (form : String)
    {updates : List QuestionUpdate} {new : List Entries}
    (hupdates : u.readQuestionUpdates = .ok updates) (hnew : u.readNewQuestions = .ok new) :
    (updateQuestions c abort form u).Proceeds := by
  have hrun : updateQuestions c abort form u = (do
      let steps ← runSteps c abort form updates
      if new.isEmpty then
        return { message := .questions, data := reportSteps steps none }
      else
        let added ← c.addQuestions (.text form) (.list (new.map .map))
        return { message := .newQuestions, data := reportSteps steps (some added) }) := by
    unfold updateQuestions
    rw [hupdates, hnew]
    rfl
  rw [hrun]
  refine (proceeds_runSteps c abort form updates).bind fun steps => ?_
  by_cases hempty : new.isEmpty = true
  · rw [if_pos hempty]
    exact Run.proceeds_pure _
  · rw [if_neg hempty]
    exact (c.proceeds_addQuestions _ _).bind fun added => Run.proceeds_pure _

theorem proceeds_updateConditions (c : Client) (form : String) {cs : List Condition}
    (h : u.readConditions = .ok (some cs)) : (updateConditions c form u).Proceeds := by
  have hrun : updateConditions c form u = (do
      let text ← Session.drawing do
        let encoded ← encodeConditions cs
        compactText (.list (encoded.map EncodedCondition.toValue))
      let data ← c.updateProperties (.text form) (.object [("conditions", .text text)])
      return { message := .conditions, data }) := by
    unfold updateConditions
    rw [h]
    rfl
  rw [hrun]
  refine (Run.proceeds_drawing _).bind fun text => ?_
  exact (c.proceeds_updateProperties _ _).bind fun data => Run.proceeds_pure _

/-- The handler of a kind of change is past its checks if the part of the request for this kind is
there and can be read. -/
theorem proceeds_handle (p : Publisher) (hu : u.IsJson) {kind : UpdateKind}
    (h : ∀ cause, ¬ u.PayloadFails kind cause) (key : Value) (form : String) :
    (p.handle kind key form u).Proceeds := by
  have hparts := UpdateRequest.exists_of_not_payloadFails hu h
  cases kind with
  | properties =>
    obtain ⟨es, hes⟩ := hparts
    exact proceeds_updateProperties _ form hes
  | questions =>
    obtain ⟨updates, new, hupdates, hnew⟩ := hparts
    exact proceeds_updateQuestions _ _ form hupdates hnew
  | conditions =>
    obtain ⟨cs, hcs⟩ := hparts
    exact proceeds_updateConditions _ form hcs

/-- The handler of a kind of change turns a request down at once if the part for this kind fails. -/
theorem exec_handle_of_payloadFails (p : Publisher) {kind : UpdateKind} {cause : Rejection}
    (h : u.PayloadFails kind cause) (key : Value) (form : String) (s : Session) :
    (p.handle kind key form u).exec s = (.error (.rejected cause), s) := by
  cases h with
  | noProperties h =>
    have hread : u.readProperties = .ok none := by
      rw [UpdateRequest.readProperties, h]
      rfl
    unfold handle updateProperties
    rw [hread]
    rfl
  | properties h =>
    unfold handle updateProperties
    rw [h]
    rfl
  | questionUpdates h =>
    unfold handle updateQuestions
    rw [h]
    rfl
  | newQuestions hupdates h =>
    unfold handle updateQuestions
    rw [hupdates, h]
    rfl
  | noConditions h =>
    have hread : u.readConditions = .ok none := by
      rw [UpdateRequest.readConditions, h]
      rfl
    unfold handle updateConditions
    rw [hread]
    rfl
  | conditions h =>
    unfold handle updateConditions
    rw [h]
    rfl

/-! ### Requests in bodies -/

/-- What the checks of the form and of the kind come to for the request in an object with a key. -/
theorem checked_of_key (p : Publisher) {data : Entries} (hdata : areJsonEntries data)
    (hu : UpdateRequest.ofEntries data = .ok u)
    (hkey : (keyFor p.configuredKey (.map data)).isTruthy) :
    p.checked u =
      if (data.get "formId").isTruthy then
        match UpdateKind.ofValue? (data.get "updateType") with
        | none => .error .unknownUpdate
        | some kind => .ok (keyFor p.configuredKey (.map data), u.formId.getD "", kind)
      else .error .noFormId := by
  have hform := UpdateRequest.formId_filter_of_ofEntries hdata hu
  obtain ⟨hown, htype⟩ : u.apiKey = bodyKey (.map data) ∧ u.kind = data.get "updateType" := by
    obtain ⟨form, -, hu⟩ := bind_eq_ok_iff.mp hu
    obtain rfl := Except.ok.inj hu
    exact ⟨rfl, rfl⟩
  have hresolve : resolveKey u.apiKey p.configuredKey =
      .ok (keyFor p.configuredKey (.map data)) := by
    rw [hown, resolveKey_bodyKey, if_pos hkey]
  rw [checked, hresolve, ok_bind, htype, ← hform]
  cases hfilter : u.formId.filter (· ≠ "") with
  | none => rfl
  | some form =>
    rw [(Option.filter_eq_some_iff.mp hfilter).1]
    rfl

/-- The request in an object with a key and a form and of a known kind passes its checks. -/
theorem checked_of_kind (p : Publisher) {data : Entries} (hdata : areJsonEntries data)
    (hu : UpdateRequest.ofEntries data = .ok u)
    (hkey : (keyFor p.configuredKey (.map data)).isTruthy)
    (hform : (data.get "formId").isTruthy) {kind : UpdateKind}
    (hkind : data.get "updateType" = .text kind.name) :
    p.checked u = .ok (keyFor p.configuredKey (.map data), u.formId.getD "", kind) := by
  rw [p.checked_of_key hdata hu hkey, if_pos hform, UpdateKind.ofValue?_eq_some_iff.mpr hkind]

/-- A body fails one of the checks, or it is an object whose request passes all of them. -/
theorem turnedDown_or_passes (p : Publisher) {body : Value} (hbody : body.isJson) :
    (∃ cause field keys, TurnedDown p.configuredKey body cause field keys) ∨
      ∃ (data : Entries) (u : UpdateRequest) (form : String) (kind : UpdateKind),
        body = .map data ∧ UpdateRequest.ofEntries data = .ok u ∧
        u.apiKey = data.present? "apiKey" ∧ u.IsJson ∧
        p.checked u = .ok (keyFor p.configuredKey body, form, kind) ∧
        ∀ cause, ¬ u.PayloadFails kind cause := by
  cases hkey : (keyFor p.configuredKey body).isTruthy with
  | false => exact Or.inl ⟨_, _, _, .noKey hkey⟩
  | true =>
    by_cases hmap : ∃ data : Entries, body = .map data
    · obtain ⟨data, rfl⟩ := hmap
      obtain ⟨u, hu, hjson, hown⟩ := UpdateRequest.exists_ofEntries_eq_ok hbody
      cases hform : (data.get "formId").isTruthy with
      | false => exact Or.inl ⟨_, _, _, .noFormId hkey hform⟩
      | true =>
        cases htype : UpdateKind.ofValue? (data.get "updateType") with
        | none =>
          have hkind := UpdateKind.ofValue?_eq_none_iff.mp htype
          exact Or.inl ⟨_, _, _, .unknownUpdate hkey hform hkind⟩
        | some kind =>
          have hkind := UpdateKind.ofValue?_eq_some_iff.mp htype
          by_cases hpayload : ∃ cause, u.PayloadFails kind cause
          · obtain ⟨cause, hcause⟩ := hpayload
            exact Or.inl ⟨_, _, _, .payload hkey hform hkind hu hcause⟩
          · have hchecked := p.checked_of_kind hbody hu hkey hform hkind
            exact Or.inr ⟨data, u, _, kind, rfl, hu, hown, hjson, hchecked,
              not_exists.mp hpayload⟩
    · exact Or.inl ⟨_, _, _, .notObject hkey (not_exists.mp hmap)⟩

/-- A body that fails a check is turned down for it. -/
theorem exec_updateFromBody_of_turnedDown (p : Publisher) {body : Value} (hbody : body.isJson)
    {cause : Rejection} {field : Option String} {keys : List Value}
    (h : TurnedDown p.configuredKey body cause field keys) (s : Session) :
    cause.field = field ∧ (p.updateFromBody body).exec s =
      (.error (.rejected cause), { s with clientKeys := s.clientKeys ++ keys }) := by
  have hsame : ({ s with clientKeys := s.clientKeys ++ [] } : Session) = s := by
    rw [List.append_nil]
  cases h with
  | noKey hkey =>
    rw [exec_updateFromBody_eq, resolveKey_bodyKey, hkey, hsame]
    exact ⟨rfl, rfl⟩
  | notObject hkey hmap =>
    have hopened : ∀ data, body.opened ≠ .map data := by
      rw [Value.opened_of_isJson hbody]
      exact hmap
    rw [keyFor_of_not_map hopened] at hkey
    rw [p.exec_updateFromBody_of_not_map hopened, resolveKey_none, if_pos hkey, hsame]
    exact ⟨rfl, rfl⟩
  | noFormId hkey hform =>
    obtain ⟨u, hu, -, hown⟩ := UpdateRequest.exists_ofEntries_eq_ok hbody
    have hchecked : p.checked u = .error .noFormId := by
      rw [p.checked_of_key hbody hu hkey, hform]
      rfl
    rw [exec_updateFromBody_map hu hown, exec_updateForm_of_error hchecked, hsame]
    exact ⟨rfl, rfl⟩
  | unknownUpdate hkey hform hkind =>
    obtain ⟨u, hu, -, hown⟩ := UpdateRequest.exists_ofEntries_eq_ok hbody
    have hchecked : p.checked u = .error .unknownUpdate := by
      rw [p.checked_of_key hbody hu hkey, if_pos hform, UpdateKind.ofValue?_eq_none_iff.mpr hkind]
    rw [exec_updateFromBody_map hu hown, exec_updateForm_of_error hchecked, hsame]
    exact ⟨rfl, rfl⟩
  | payload hkey hform hkind hu hpayload =>
    obtain ⟨u, hu', -, hown⟩ := UpdateRequest.exists_ofEntries_eq_ok hbody
    obtain rfl := Except.ok.inj (hu.symm.trans hu')
    rw [exec_updateFromBody_map hu hown,
      exec_updateForm (p.checked_of_kind hbody hu hkey hform hkind),
      exec_handle_of_payloadFails p hpayload]
    exact ⟨rfl, rfl⟩

/-- A body is turned down as it fails a check, or a client is opened and what is done with it is
past all checks. -/
theorem exec_updateFromBody_cases (p : Publisher) {body : Value} (hbody : body.isJson)
    (s : Session) :
    (∃ cause field keys, TurnedDown p.configuredKey body cause field keys ∧
        (p.updateFromBody body).exec s =
          (.error (.rejected cause), { s with clientKeys := s.clientKeys ++ keys })) ∨
      ∃ x : Run Updated, x.Proceeds ∧ (p.updateFromBody body).exec s =
        (during .updateForm x).exec (s.opened (keyFor p.configuredKey body)) := by
  rcases p.turnedDown_or_passes hbody with
    ⟨cause, field, keys, h⟩ |
      ⟨data, u, form, kind, rfl, hu, hown, hjson, hchecked, hpayload⟩
  · exact Or.inl ⟨cause, field, keys, h, (p.exec_updateFromBody_of_turnedDown hbody h s).2⟩
  · refine Or.inr ⟨p.handle kind (keyFor p.configuredKey (.map data)) form u,
      p.proceeds_handle hjson hpayload _ form, ?_⟩
    rw [exec_updateFromBody_map hu hown, exec_updateForm hchecked, exec_during]

/-- A JSON body is turned down exactly for the first check that it fails: nothing is called, the
session only notes the key of a client that was opened before, and the field of this check is
named. -/
theorem updateFromBody_rejected_iff (p : Publisher) {body : Value} (hbody : body.isJson)
    (s s' : Session) (cause : Rejection) :
    (p.updateFromBody body).exec s = (.error (.rejected cause), s') ↔
      ∃ field keys, TurnedDown p.configuredKey body cause field keys ∧ cause.field = field ∧
        s' = { s with clientKeys := s.clientKeys ++ keys } := by
  constructor
  · intro h
    rcases p.exec_updateFromBody_cases hbody s with
      ⟨cause', field, keys, hdown, hexec⟩ | ⟨x, hx, hexec⟩
    · obtain ⟨hcause, rfl⟩ := Prod.mk.inj (hexec.symm.trans h)
      obtain rfl := Fault.rejected.inj (Except.error.inj hcause)
      exact ⟨field, keys, hdown, (p.exec_updateFromBody_of_turnedDown hbody hdown s).1, rfl⟩
    · -- What is past all checks turns nothing down.
      obtain ⟨calls, -, hfault⟩ := hx.during .updateForm (s.opened (keyFor p.configuredKey body))
      rw [← hexec, h] at hfault
      exact (hfault _ rfl).elim
  · rintro ⟨field, keys, hdown, -, rfl⟩
    exact (p.exec_updateFromBody_of_turnedDown hbody hdown s).2

/-- A link that is not known counts even though parts for other kinds of changes could not be read
either; terms that are missing would be looked at later. -/
theorem updateFromBody_rejected_of_unknown_link :
    let p : Publisher := { configuredKey := .text "k" }
    let body : Value := .object [
      ("newQuestions", .text "none"), ("formId", .text "7"), ("updateType", .text "conditions"),
      ("properties", .list []), ("apiKey", .text ""),
      ("conditions", .list [.object [("terms", .bool true), ("link", .text "None")]])]
    (p.updateFromBody body).exec {} =
      (.error (.rejected .unknownLink), { clientKeys := [.text "k"] }) := by
  intro p body
  have hdown : TurnedDown p.configuredKey body .unknownLink (some "conditions") [.text "k"] :=
    .payload rfl rfl rfl rfl (.conditions rfl)
  exact (p.updateFromBody_rejected_iff (by decide) {} _ .unknownLink).mpr
    ⟨some "conditions", [.text "k"], hdown, rfl, rfl⟩

end Publisher

end FormPublisher
