import FormPublisher.Proofs.Provider.Exchange
import FormPublisher.Proofs.Request.Update
import FormPublisher.Publish.Update

/-!
# Changing questions step by step

What a list of changes to questions asks of the provider is known before any reply is there: it is
the list of its planned steps (`plannedSteps`), since a change that asks for nothing makes no call.
`exec_runSteps_append` follows a run through changes after whose replies it goes on: it makes the
planned calls in order and records each with its own reply.  `exec_runSteps_append_of_stop` is the
run up to the first reply after which it does not go on.

Both are inductions on the list of changes, with the session as it stands before each of them.
-/

namespace FormPublisher

variable {α : Type}

/-! ### Planned steps -/

/-- A call that a change to a question needs: to delete the question, or to change its fields. -/
structure PlannedStep where
  action : StepAction
  question : String
  fields : List (String × String) := []
  deriving DecidableEq, Repr, Inhabited

namespace PlannedStep

/-- What a step asks of the provider. -/
def request (form : String) (p : PlannedStep) : Request :=
  match p.action with
  | .delete => .deleteQuestion form p.question
  | .update => .updateQuestion form p.question p.fields

/-- The call of a step. -/
def call (c : Client) (form : String) (p : PlannedStep) : Call where
  method :=
    match p.action with
    | .delete => .delete
    | .update => .post
  url := trimSlashes c.apiUrl ++ "/form/" ++ form ++ "/question/" ++ p.question
  apiKey := c.apiKey
  timeout := c.timeout
  body :=
    match p.action with
    | .delete => .empty
    | .update => .form p.fields

theorem call_request (c : Client) (form : String) (p : PlannedStep) :
    c.call (p.request form) = p.call c form := by
  obtain ⟨action, question, fields⟩ := p
  cases action <;>
    simp [Client.call, request, call, Request.method, Request.path, Request.body,
      String.append_assoc]

/-- The record of a step, given the reply to its call. -/
def record (form : String) (p : PlannedStep) (r : Reply) : Step where
  action := p.action
  question := p.question
  failure := Client.failure? (p.request form) r

/-- The report on a step, given the reply to its call. -/
def report (p : PlannedStep) (r : Reply) : Value :=
  .object [("action", .text p.action.name), ("questionId", .text p.question),
    ("success", .bool r.succeeds),
    ("statusCode", if r.succeeds then .null else (r.errorStatus?.map .int).getD .null),
    ("error", if r.succeeds then .null else
      .text ((r.errorText?.filter (· ≠ "")).getD
        ("Failed to " ++ p.action.name ++ " question " ++ p.question)))]

theorem succeeded_record (form : String) (p : PlannedStep) (r : Reply) :
    (p.record form r).succeeded = r.succeeds := by
  unfold Step.succeeded record Client.failure?
  cases r.succeeds <;> rfl

theorem message_request (form : String) (p : PlannedStep) :
    "Failed to " ++ (p.request form).operation.describe =
      "Failed to " ++ p.action.name ++ " question " ++ p.question := by
  have hmessage : ∀ words, words = p.action.name ++ " question " →
      "Failed to " ++ (words ++ p.question) =
        "Failed to " ++ p.action.name ++ " question " ++ p.question := by
    rintro _ rfl
    simp only [String.append_assoc]
  obtain ⟨action, question, fields⟩ := p
  cases action with
  | delete =>
    have hwords : "delete question " = "delete" ++ " question " := by decide
    exact hmessage _ hwords
  | update =>
    have hwords : "update question " = "update" ++ " question " := by decide
    exact hmessage _ hwords

theorem toValue_record (form : String) (p : PlannedStep) (r : Reply) :
    (p.record form r).toValue = p.report r := by
  unfold Step.toValue report
  rw [succeeded_record]
  unfold record Client.failure?
  cases r.succeeds with
  | true => rfl
  | false =>
    have hmessage := p.message_request form
    simp only [Bool.false_eq_true, if_false, Option.bind_some, Option.map_some, Value.ofText?,
      Step.errorText, ProviderError.message, hmessage]

end PlannedStep

/-- The fields that are sent for the data of a change to a question. -/
def Value.questionFields (data : Value) : List (String × String) :=
  match data.formFields "question" with
  | .ok fields => fields
  | .error _ => []

/-- JSON data are sent as fields if they are an object. -/
theorem Value.formFields_map {es : Entries} (hes : areJsonEntries es) :
    (Value.map es).formFields "question" = .ok (Value.map es).questionFields := by
  obtain ⟨fields, hfields⟩ := exists_formFields_eq_ok "question" hes
  have hmap : (Value.map es).formFields "question" = .ok fields := hfields
  rw [Value.questionFields, hmap]

namespace QuestionUpdate

/-- The step for a change: none if there is nothing to change, or if the action is neither to delete
nor to update. -/
def planned? (u : QuestionUpdate) : Option PlannedStep :=
  match u.action with
  | .scalar (.text "delete") => some { action := .delete, question := u.question }
  | .scalar (.text "update") =>
    if u.data.isTruthy then
      some { action := .update, question := u.question, fields := u.data.questionFields }
    else none
  | _ => none

/-- Whether the data of a change are an object if they are sent. -/
def isSound (u : QuestionUpdate) : Bool :=
  match u.action with
  | .scalar (.text "update") => !u.data.isTruthy || u.data.kind = .map
  | _ => true

/-- A change that asks for its planned step. -/
def IsReady (form : String) (u : QuestionUpdate) : Prop :=
  u.request? form = .ok (u.planned?.map fun p => (p.action, p.request form))

variable {u : QuestionUpdate}

theorem isSound_of_map (h : u.data.isTruthy → ∃ es, u.data = .map es) : u.isSound := by
  unfold isSound
  split
  · cases ht : u.data.isTruthy with
    | false => rfl
    | true =>
      obtain ⟨es, hes⟩ := h ht
      rw [hes]
      rfl
  · rfl

theorem question_of_planned? {p : PlannedStep} (h : u.planned? = some p) :
    p.question = u.question := by
  unfold planned? at h
  split at h
  · rw [← Option.some.inj h]
  · split at h
    · rw [← Option.some.inj h]
    · cases h
  · cases h

theorem planned?_of_delete (h : u.action = .text "delete") :
    u.planned? = some { action := .delete, question := u.question } := by
  rw [planned?, h]
  rfl

theorem planned?_of_update (h : u.action = .text "update") :
    u.planned? =
      if u.data.isTruthy then
        some { action := .update, question := u.question, fields := u.data.questionFields }
      else none := by
  rw [planned?, h]
  rfl

theorem planned?_of_other (hdelete : u.action ≠ .text "delete")
    (hupdate : u.action ≠ .text "update") : u.planned? = none := by
  unfold planned?
  split
  · rename_i h
    exact absurd h hdelete
  · rename_i h
    exact absurd h hupdate
  · rfl

theorem request?_of_other (form : String) (hdelete : u.action ≠ .text "delete")
    (hupdate : u.action ≠ .text "update") :
    u.request? form = (do
      discard u.action.render
      return none) := by
  unfold request?
  split
  · rename_i h
    exact absurd h hdelete
  · rename_i h
    exact absurd h hupdate
  · rfl

theorem request?_of_update (form : String) (h : u.action = .text "update") :
    u.request? form =
      if u.data.isTruthy then do
        let fields ← u.data.formFields "question"
        return some (.update, .updateQuestion form u.question fields)
      else .ok none := by
  rw [request?, h]
  rfl

theorem isSound_of_update (h : u.action = .text "update") :
    u.isSound = (!u.data.isTruthy || u.data.kind = .map) := by
  rw [isSound, h]
  rfl

/-- A change out of JSON whose data are sound asks for its planned step. -/
theorem isReady_of_isSound (form : String) (haction : u.action.isJson) (hdata : u.data.isJson)
    (h : u.isSound) : u.IsReady form := by
  unfold IsReady
  by_cases hdelete : u.action = .text "delete"
  · rw [planned?_of_delete hdelete, request?, hdelete]
    rfl
  by_cases hupdate : u.action = .text "update"
  · rw [planned?_of_update hupdate, request?_of_update form hupdate]
    rw [isSound_of_update hupdate] at h
    by_cases ht : u.data.isTruthy = true
    · obtain ⟨es, hes⟩ : ∃ es, u.data = .map es := by
        simp only [ht, Bool.not_true, Bool.false_or, decide_eq_true_eq] at h
        exact Value.exists_eq_map hdata h
      rw [hes] at hdata
      rw [if_pos ht, if_pos ht, hes, Value.formFields_map hdata]
      rfl
    · rw [if_neg ht, if_neg ht]
      rfl
  · obtain ⟨text, htext⟩ := Value.exists_render_eq_ok haction
    rw [planned?_of_other hdelete hupdate, request?_of_other form hdelete hupdate, htext]
    rfl

/-- Data that are no object are found out only when the change is carried out. -/
theorem request?_of_not_isSound (form : String) (hdata : u.data.isJson) (h : u.isSound = false) :
    u.request? form = .error (.noMember u.data.kind .items) := by
  have hupdate : u.action = .text "update" := by
    unfold isSound at h
    split at h
    · assumption
    · cases h
  rw [isSound_of_update hupdate] at h
  obtain ⟨ht, hkind⟩ : u.data.isTruthy = true ∧ u.data.kind ≠ .map := by simpa using h
  have hfields : u.data.formFields "question" = .error (.noMember u.data.kind .items) := by
    unfold Value.formFields
    rw [Value.opened_of_isJson hdata]
    split
    · rename_i es hes
      rw [hes] at hkind
      exact absurd rfl hkind
    · rfl
  rw [request?_of_update form hupdate, if_pos ht, hfields]
  rfl

end QuestionUpdate

/-- The steps for changes to questions, in the order of the changes. -/
def plannedSteps (us : List QuestionUpdate) : List PlannedStep :=
  us.filterMap QuestionUpdate.planned?

@[simp] theorem plannedSteps_nil : plannedSteps [] = [] := rfl

theorem plannedSteps_cons_of_none {u : QuestionUpdate} (h : u.planned? = none)
    (us : List QuestionUpdate) : plannedSteps (u :: us) = plannedSteps us :=
  List.filterMap_cons_none h

theorem plannedSteps_cons_of_some {u : QuestionUpdate} {p : PlannedStep}
    (h : u.planned? = some p) (us : List QuestionUpdate) :
    plannedSteps (u :: us) = p :: plannedSteps us :=
  List.filterMap_cons_some h

/-! ### Runs of steps -/

namespace Session

/-- Things with the replies to the calls for them. -/
def answered (s : Session) (xs : List α) : List (α × Reply) := xs.mapIdx fun i x => (x, s.reply i)

@[simp] theorem answered_nil (s : Session) : s.answered ([] : List α) = [] := rfl

theorem answered_cons (s : Session) (x : α) (xs : List α) (call : Call) :
    s.answered (x :: xs) = (x, s.reply 0) :: (s.after [call]).answered xs := by
  unfold answered
  rw [List.mapIdx_cons]
  congr 1
  refine congrArg (fun f => xs.mapIdx f) (funext fun i => funext fun y => ?_)
  rw [reply_after, List.length_singleton, Nat.add_comm]

end Session

/-- Whether a series of changes goes on after a reply: after a success, and unless it stops at the
first failure also after a reply that says that its call failed. -/
def Reply.goesOn (abort : Bool) (r : Reply) : Bool := r.succeeds || (!abort && !r.isUnreadable)

/-- A reply after which a series of changes does not go on is an error. -/
theorem Client.exists_outcome_eq_error {abort : Bool} (request : Request) {r : Reply}
    (hr : r.goesOn abort = false) : ∃ fault, Client.outcome request r = .error fault := by
  rcases Client.outcome_cases request r with ⟨hs, -⟩ | ⟨-, -, hout⟩ | ⟨-, -, cause, -, hout⟩
  · rw [Reply.goesOn, hs] at hr
    cases hr
  · exact ⟨_, hout⟩
  · exact ⟨_, hout⟩

section Runs

variable {c : Client} {abort : Bool} {form : String} {u : QuestionUpdate} {us : List QuestionUpdate}
  {p : PlannedStep} {s : Session}

/-- A run with more steps recorded in front. -/
def recorded (steps : List Step) (out : Except Fault (List Step) × Session) :
    Except Fault (List Step) × Session :=
  ((steps ++ ·) <$> out.1, out.2)

theorem recorded_nil (out : Except Fault (List Step) × Session) : recorded [] out = out := by
  obtain ⟨r, s⟩ := out
  cases r <;> rfl

theorem recorded_append (as bs : List Step) (out : Except Fault (List Step) × Session) :
    recorded (as ++ bs) out = recorded as (recorded bs out) := by
  obtain ⟨r, s⟩ := out
  cases r with
  | error e => rfl
  | ok steps => simp [recorded, List.append_assoc]

theorem exec_recorded (r : Run (List Step)) (step : Step) :
    (do return step :: (← r) : Run (List Step)).exec s = recorded [step] (r.exec s) :=
  r.exec_bind_pure (step :: ·) s

theorem exec_runSteps_of_none (h : u.request? form = .ok none) :
    (runSteps c abort form (u :: us)).exec s = (runSteps c abort form us).exec s := by
  rw [runSteps, Run.exec_bind_ok (Run.exec_checked_of_ok h s)]

theorem exec_runSteps_of_error {e : Misuse} (h : u.request? form = .error e) :
    (runSteps c abort form (u :: us)).exec s = (.error (.misuse e), s) := by
  rw [runSteps]
  have hchecked : (Session.checked (u.request? form)).exec s = (.error (.misuse e), s) := by
    rw [Run.exec_checked, h]
    rfl
  rw [Run.exec_bind_error hchecked]

/-- A change that asks for a call, and what the run makes of the reply. -/
theorem exec_runSteps_of_some (hq : p.question = u.question)
    (h : u.request? form = .ok (some (p.action, p.request form))) :
    (runSteps c abort form (u :: us)).exec s =
      match Client.outcome (p.request form) (s.reply 0) with
      | .ok _ =>
        recorded [{ action := p.action, question := p.question }]
          ((runSteps c abort form us).exec (s.after [p.call c form]))
      | .error (.provider e) =>
        if abort then (.error (.provider e), s.after [p.call c form])
        else
          recorded [{ action := p.action, question := p.question, failure := some e }]
            ((runSteps c abort form us).exec (s.after [p.call c form]))
      | .error fault => (.error fault, s.after [p.call c form]) := by
  rw [runSteps]
  have hcall : Run.exec (ExceptT.lift (c.attempt (p.request form))) s =
      (.ok (Client.outcome (p.request form) (s.reply 0)), s.after [p.call c form]) := by
    rw [Run.exec_lift, Client.attempt_eq, PlannedStep.call_request]
  rw [Run.exec_bind_ok (Run.exec_checked_of_ok h s)]
  dsimp only
  rw [Run.exec_bind_ok hcall, ← hq]
  cases Client.outcome (p.request form) (s.reply 0) with
  | ok v => exact exec_recorded _ _
  | error fault =>
    cases fault with
    | provider e =>
      cases abort with
      | true => rfl
      | false => exact exec_recorded _ _
    | _ => rfl

/-- A run that goes on after the reply to a step records the step and makes the other changes. -/
theorem exec_runSteps_of_goesOn (hu : u.IsReady form) (hp : u.planned? = some p)
    (hr : (s.reply 0).goesOn abort) :
    (runSteps c abort form (u :: us)).exec s =
      recorded [p.record form (s.reply 0)]
        ((runSteps c abort form us).exec (s.after [p.call c form])) := by
  unfold QuestionUpdate.IsReady at hu
  rw [hp] at hu
  rw [exec_runSteps_of_some (QuestionUpdate.question_of_planned? hp) hu]
  unfold Reply.goesOn at hr
  rcases Client.outcome_cases (p.request form) (s.reply 0) with
    ⟨hs, v, -, hout⟩ | ⟨hs, -, hout⟩ | ⟨hs, hunreadable, -⟩
  · rw [hout]
    simp only [PlannedStep.record, Client.failure?, hs, if_true]
  · -- A failed call is passed over only by a run that does not stop at failures.
    have habort : abort = false := by
      rw [hs] at hr
      simp only [Bool.false_or, Bool.and_eq_true, Bool.not_eq_true'] at hr
      exact hr.1
    rw [hout]
    simp only [PlannedStep.record, Client.failure?, hs, habort, Bool.false_eq_true, if_false]
  · rw [hs, hunreadable] at hr
    simp at hr

/-- A run that does not go on after the reply to a step ends there with what the call made of it. -/
theorem exec_runSteps_of_stop (hu : u.IsReady form) (hp : u.planned? = some p)
    (hr : (s.reply 0).goesOn abort = false) {fault : Fault}
    (hfault : Client.outcome (p.request form) (s.reply 0) = .error fault) :
    (runSteps c abort form (u :: us)).exec s = (.error fault, s.after [p.call c form]) := by
  unfold QuestionUpdate.IsReady at hu
  rw [hp] at hu
  rw [exec_runSteps_of_some (QuestionUpdate.question_of_planned? hp) hu, hfault]
  unfold Reply.goesOn at hr
  rcases Client.outcome_cases (p.request form) (s.reply 0) with
    ⟨hs, -⟩ | ⟨hs, hread, hout⟩ | ⟨-, -, cause, -, hout⟩
  · rw [hs] at hr
    cases hr
  · have habort : abort = true := by
      rw [hs, hread] at hr
      simpa using hr
    rw [hout] at hfault
    obtain rfl := Except.error.inj hfault
    exact if_pos habort
  · rw [hout] at hfault
    obtain rfl := Except.error.inj hfault
    rfl

variable {vs : List QuestionUpdate}

/-- A run through changes after whose replies it goes on makes the calls of all their steps in
order, records every step with its own reply, and goes on with the other changes. -/
theorem exec_runSteps_append (hus : ∀ u ∈ us, u.IsReady form)
    (hr : ∀ x ∈ s.answered (plannedSteps us), x.2.goesOn abort) :
    (runSteps c abort form (us ++ vs)).exec s =
      recorded ((s.answered (plannedSteps us)).map fun x => x.1.record form x.2)
        ((runSteps c abort form vs).exec
          (s.after ((plannedSteps us).map fun p => p.call c form))) := by
  -- The session differs from change to change, and each call uses up one reply of it.
  induction us generalizing s with
  | nil => simp [recorded_nil]
  | cons u us ih =>
    obtain ⟨hu, hus⟩ := List.forall_mem_cons.mp hus
    rw [List.cons_append]
    cases hp : u.planned? with
    | none =>
      rw [plannedSteps_cons_of_none hp] at hr ⊢
      have hnone : u.request? form = .ok none := by
        rw [hu, hp]
        rfl
      rw [exec_runSteps_of_none hnone]
      exact ih hus hr
    | some p =>
      rw [plannedSteps_cons_of_some hp, s.answered_cons _ _ (p.call c form)] at hr
      obtain ⟨hp0, hr⟩ := List.forall_mem_cons.mp hr
      rw [exec_runSteps_of_goesOn hu hp hp0, ih hus hr, ← recorded_append,
        plannedSteps_cons_of_some hp, s.answered_cons _ _ (p.call c form), List.map_cons,
        List.map_cons, ← s.after_append]
      rfl

/-- A run ends at the first step after whose reply it does not go on: the calls are those of the
steps up to this one. -/
theorem exec_runSteps_append_of_stop (hus : ∀ u ∈ us, u.IsReady form)
    {before rest : List (PlannedStep × Reply)} {x : PlannedStep × Reply}
    (hplan : s.answered (plannedSteps us) = before ++ x :: rest)
    (hbefore : ∀ y ∈ before, y.2.goesOn abort) (hx : x.2.goesOn abort = false) {fault : Fault}
    (hfault : Client.outcome (x.1.request form) x.2 = .error fault) :
    (runSteps c abort form (us ++ vs)).exec s =
      (.error fault, s.after ((before ++ [x]).map fun y => y.1.call c form)) := by
  induction us generalizing s before with
  | nil => simp at hplan
  | cons u us ih =>
    obtain ⟨hu, hus⟩ := List.forall_mem_cons.mp hus
    rw [List.cons_append]
    cases hp : u.planned? with
    | none =>
      rw [plannedSteps_cons_of_none hp] at hplan
      have hnone : u.request? form = .ok none := by
        rw [hu, hp]
        rfl
      rw [exec_runSteps_of_none hnone]
      exact ih hus hplan hbefore
    | some p =>
      rw [plannedSteps_cons_of_some hp, s.answered_cons _ _ (p.call c form)] at hplan
      cases before with
      | nil =>
        -- This is the step at which the run ends.
        obtain ⟨rfl, -⟩ := List.cons.inj hplan
        exact exec_runSteps_of_stop hu hp hx hfault
      | cons y before =>
        obtain ⟨rfl, htail⟩ := List.cons.inj hplan
        obtain ⟨hp0, hbefore⟩ := List.forall_mem_cons.mp hbefore
        rw [exec_runSteps_of_goesOn hu hp hp0, ih hus htail hbefore, List.cons_append,
          List.map_cons, ← s.after_append]
        rfl

/-- A run after all of whose replies it goes on. -/
theorem exec_runSteps (hus : ∀ u ∈ us, u.IsReady form)
    (hr : ∀ x ∈ s.answered (plannedSteps us), x.2.goesOn abort) :
    (runSteps c abort form us).exec s =
      (.ok ((s.answered (plannedSteps us)).map fun x => x.1.record form x.2),
        s.after ((plannedSteps us).map fun p => p.call c form)) := by
  have h : (runSteps c abort form (us ++ [])).exec s = _ := exec_runSteps_append hus hr
  rw [List.append_nil] at h
  rw [h]
  simp [recorded, runSteps]

theorem exec_runSteps_of_stop_at (hus : ∀ u ∈ us, u.IsReady form)
    {before rest : List (PlannedStep × Reply)} {x : PlannedStep × Reply}
    (hplan : s.answered (plannedSteps us) = before ++ x :: rest)
    (hbefore : ∀ y ∈ before, y.2.goesOn abort) (hx : x.2.goesOn abort = false) {fault : Fault}
    (hfault : Client.outcome (x.1.request form) x.2 = .error fault) :
    (runSteps c abort form us).exec s =
      (.error fault, s.after ((before ++ [x]).map fun y => y.1.call c form)) := by
  have h : (runSteps c abort form (us ++ [])).exec s = _ :=
    exec_runSteps_append_of_stop hus hplan hbefore hx hfault
  rwa [List.append_nil] at h

end Runs

end FormPublisher
