import FormPublisher.Proofs.Publish.Conditions
import FormPublisher.Proofs.Publish.Questions
import Mathlib.Data.List.TakeWhile

/-!
# How a request to change a form ends

A request ends orderly with a result, turned down before any call, or with the failure of a call.
`updateFromBody_orderly_iff` says exactly when the request in a JSON body does not: data of a change
to a question that are sent but are no object are found out only when their turn comes, after the
calls for the changes before them, and a reply whose text is JSON with a literal or a nesting that
is too large breaks off every request.
-/

namespace FormPublisher

/-- The ways in which a request ends orderly, given the session before it. -/
inductive EndsOrderly {α : Type} (s : Session) : Except Fault α × Session → Prop where
  | result (a : α) (s' : Session) : EndsOrderly s (.ok a, s')
  | rejected (cause : Rejection) (s' : Session) (h : s'.calls = s.calls) :
    EndsOrderly s (.error (.rejected cause), s')
  | failed (e : ProviderError) (s' : Session) : EndsOrderly s (.error (.provider e), s')

/-! ### When a request breaks off -/

/-- Whether changes to questions, and the adding of others after them, break off: at data that are
no object, or at a reply that cannot be taken in. -/
def stepsBreakOff (abort : Bool) (updates : List QuestionUpdate) (new : List Entries)
    (s : Session) : Bool :=
  let sound := updates.takeWhile QuestionUpdate.isSound
  let plan := plannedSteps sound
  match (s.answered plan).find? fun x => !x.2.goesOn abort with
  | some x => x.2.isUnreadable
  | none =>
    sound.length < updates.length || (!new.isEmpty && (s.reply plan.length).isUnreadable)

/-- A request of a kind that passed the checks breaks off. -/
def UpdateRequest.BreaksOff (u : UpdateRequest) (kind : UpdateKind) (abort : Bool) (s : Session) :
    Prop :=
  match kind with
  | .properties => (∃ es, u.readProperties = .ok (some es)) ∧ (s.reply 0).isUnreadable
  | .questions =>
    ∃ updates new, u.readQuestionUpdates = .ok updates ∧ u.readNewQuestions = .ok new ∧
      stepsBreakOff abort updates new s
  | .conditions => (∃ cs, u.readConditions = .ok (some cs)) ∧ (s.reply 0).isUnreadable

/-- The request in a body passes the checks and breaks off. -/
def Publisher.BreaksOff (p : Publisher) (body : Value) (s : Session) : Prop :=
  ∃ data u key form kind, body = .map data ∧ UpdateRequest.ofEntries data = .ok u ∧
    p.checked u = .ok (key, form, kind) ∧ u.BreaksOff kind p.abortOnFailure s

/-! ### Endings of parts -/

section Endings

variable {α β : Type} {s : Session}

theorem not_endsOrderly_misuse (e : Misuse) (s' : Session) :
    ¬ EndsOrderly s ((.error (.misuse e), s') : Except Fault α × Session) := by
  intro h
  cases h

theorem not_endsOrderly_literal (cause : LiteralError) (s' : Session) :
    ¬ EndsOrderly s ((.error (.literal cause), s') : Except Fault α × Session) := by
  intro h
  cases h

theorem endsOrderly_of_onlyRejects {x : Except Fault α} (hx : OnlyRejects x) {fault : Fault}
    (h : x = .error fault) {s' : Session} (hs : s'.calls = s.calls) :
    EndsOrderly s ((.error fault, s') : Except Fault β × Session) := by
  obtain ⟨cause, rfl⟩ := hx fault h
  exact .rejected cause s' hs

/-- Blaming the whole operation for a failure does not change how it ends. -/
theorem endsOrderly_blame_iff (operation : Operation) (out : Except Fault α × Session) :
    EndsOrderly s (Publisher.blame operation out.1, out.2) ↔ EndsOrderly s out := by
  obtain ⟨fault | a, s'⟩ := out
  · cases fault with
    | provider e => exact iff_of_true (.failed _ s') (.failed e s')
    | _ => rfl
  · rfl

theorem endsOrderly_opened_iff (key : Value) (out : Except Fault α × Session) :
    EndsOrderly (s.opened key) out ↔ EndsOrderly s out := by
  constructor
  all_goals
    intro h
    cases h with
    | result a s' => exact .result a s'
    | rejected cause s' hs => exact .rejected cause s' hs
    | failed e s' => exact .failed e s'

/-- A call ends orderly unless its reply cannot be taken in. -/
theorem endsOrderly_outcome_iff (f : Value → α) (r : Request) (reply : Reply) (s' : Session) :
    EndsOrderly s (f <$> Client.outcome r reply, s') ↔ reply.isUnreadable = false := by
  rcases Client.outcome_cases r reply with
    ⟨hs, v, hv, hout⟩ | ⟨-, hread, hout⟩ | ⟨-, hunreadable, cause, -, hout⟩
  · rw [hout]
    have hread : reply.isUnreadable = false := by
      rw [Reply.isUnreadable, hv]
    exact iff_of_true (.result _ s') hread
  · rw [hout]
    exact iff_of_true (.failed _ s') hread
  · rw [hout, hunreadable]
    exact iff_of_false (not_endsOrderly_literal cause s') (by simp)

end Endings

/-! ### Kinds of changes -/

namespace Publisher

variable {c : Client} {form : String} {u : UpdateRequest} {s : Session}

theorem exec_updateProperties {es : Entries} (h : u.readProperties = .ok (some es))
    (hes : areJsonEntries es) (c : Client) (form : String) (s : Session) :
    ∃ r : Request, (updateProperties c form u).exec s =
      ((fun v => { message := .properties, data := v }) <$> Client.outcome r (s.reply 0),
        s.after [c.call r]) := by
  obtain ⟨fields, hfields⟩ : ∃ fields, (Value.map es).formFields "properties" = .ok fields :=
    exists_formFields_eq_ok "properties" hes
  refine ⟨.updateProperties form fields, ?_⟩
  unfold updateProperties
  rw [Run.exec_bind_ok (Run.exec_accepted_of_ok h s)]
  dsimp only
  rw [Run.exec_bind_pure, c.exec_updateProperties (render_text form) hfields]

theorem updateProperties_endsOrderly_iff (hu : u.IsJson) (abort : Bool) :
    EndsOrderly s ((updateProperties c form u).exec s) ↔ ¬ u.BreaksOff .properties abort s := by
  cases h : u.readProperties with
  | error cause =>
    have hexec : (updateProperties c form u).exec s = (.error (.rejected cause), s) := by
      unfold updateProperties
      rw [h]
      rfl
    rw [hexec]
    refine iff_of_true (.rejected cause s rfl) ?_
    rintro ⟨⟨es, hes⟩, -⟩
    rw [h] at hes
    cases hes
  | ok properties =>
    cases properties with
    | none =>
      have hexec : (updateProperties c form u).exec s = (.error (.rejected .noProperties), s) := by
        unfold updateProperties
        rw [h]
        rfl
      rw [hexec]
      refine iff_of_true (.rejected .noProperties s rfl) ?_
      rintro ⟨⟨es, hes⟩, -⟩
      rw [h] at hes
      cases hes
    | some es =>
      have hjson := UpdateRequest.areJsonEntries_of_readProperties hu h
      obtain ⟨r, hexec⟩ := exec_updateProperties h hjson c form s
      rw [hexec, endsOrderly_outcome_iff]
      simp [UpdateRequest.BreaksOff, h]

theorem updateConditions_endsOrderly_iff (hu : u.IsJson) (abort : Bool) :
    EndsOrderly s ((updateConditions c form u).exec s) ↔ ¬ u.BreaksOff .conditions abort s := by
  have hnone (h : ∀ cs, u.readConditions ≠ .ok (some cs)) : ¬ u.BreaksOff .conditions abort s := by
    rintro ⟨⟨cs, hcs⟩, -⟩
    exact h cs hcs
  cases h : u.readConditions with
  | error fault =>
    have hexec : (updateConditions c form u).exec s = (.error fault, s) := by
      unfold updateConditions
      rw [h]
      rfl
    rw [hexec]
    refine iff_of_true ?_ (hnone fun cs hcs => ?_)
    · exact endsOrderly_of_onlyRejects (UpdateRequest.onlyRejects_readConditions hu) h rfl
    · rw [h] at hcs
      cases hcs
  | ok conditions =>
    cases conditions with
    | none =>
      have hexec : (updateConditions c form u).exec s = (.error (.rejected .noConditions), s) := by
        unfold updateConditions
        rw [h]
        rfl
      rw [hexec]
      refine iff_of_true (.rejected .noConditions s rfl) (hnone fun cs hcs => ?_)
      rw [h] at hcs
      cases hcs
    | some cs =>
      have hcs := UpdateRequest.isJson_of_readConditions hu.conditions h
      obtain ⟨ids, text, es, hexec, -, -⟩ := exec_updateConditions h hcs c form s
      rw [hexec, endsOrderly_outcome_iff]
      simp [UpdateRequest.BreaksOff, h]

/-- Changes to questions whose parts can be read end orderly exactly if they do not break off. -/
theorem updateQuestions_endsOrderly_iff_of_ok {updates : List QuestionUpdate} {new : List Entries}
    (hjson : u.questionUpdates.isJson) (hupdates : u.readQuestionUpdates = .ok updates)
    (hnew : u.readNewQuestions = .ok new) (abort : Bool) :
    EndsOrderly s ((updateQuestions c abort form u).exec s) ↔
      stepsBreakOff abort updates new s = false := by
  have hparts := UpdateRequest.isJson_of_readQuestionUpdates hjson hupdates
  have hsplit := List.takeWhile_append_dropWhile (p := QuestionUpdate.isSound) (l := updates)
  rw [exec_updateQuestions hupdates hnew]
  unfold stepsBreakOff
  dsimp only
  -- The changes before the first one that cannot be carried out are ready to be made.
  generalize hsound : updates.takeWhile QuestionUpdate.isSound = sound at hsplit ⊢
  generalize hrest : updates.dropWhile QuestionUpdate.isSound = rest at hsplit
  have hready : ∀ q ∈ sound, q.IsReady form := by
    intro q hq
    have hmem : q ∈ updates := by
      rw [← hsplit]
      exact List.mem_append_left _ hq
    rw [← hsound] at hq
    exact QuestionUpdate.isReady_of_isSound form (hparts q hmem).1 (hparts q hmem).2
      (List.mem_takeWhile_imp hq)
  cases hfind : (s.answered (plannedSteps sound)).find? (fun x => !x.2.goesOn abort) with
  | some x =>
    -- The run ends at the reply to this step.
    obtain ⟨hx, before, after, hplan, hbefore⟩ := List.find?_eq_some_iff_append.mp hfind
    rw [Bool.not_eq_true'] at hx
    obtain ⟨fault, hfault⟩ := Client.exists_outcome_eq_error (x.1.request form) hx
    have hgoesOn : ∀ y ∈ before, y.2.goesOn abort := fun y hy => by simpa using hbefore y hy
    rw [← hsplit, exec_runSteps_append_of_stop hready hplan hgoesOn hx hfault]
    have hends := endsOrderly_outcome_iff (s := s) (fun _ => (default : Updated))
      (x.1.request form) x.2 (s.after ((before ++ [x]).map fun y => y.1.call c form))
    rw [hfault] at hends
    exact hends
  | none =>
    have hreplies : ∀ x ∈ s.answered (plannedSteps sound), x.2.goesOn abort := by
      simpa using List.find?_eq_none.mp hfind
    cases rest with
    | nil =>
      rw [List.append_nil] at hsplit
      subst hsplit
      rw [exec_runSteps hready hreplies]
      -- All changes are made, and the last call is the one that adds the new questions.
      cases hempty : new.isEmpty with
      | true =>
        simp only [if_true]
        exact iff_of_true (.result _ _) (by simp)
      | false =>
        simp only [Bool.false_eq_true, if_false]
        rw [endsOrderly_outcome_iff, Session.reply_after, List.length_map]
        simp
    | cons v vs =>
      -- The data of the next change are no object.
      have hv : v.isSound = false := by
        have h := List.head?_dropWhile_not QuestionUpdate.isSound updates
        rw [hrest] at h
        simpa using h
      have hlength : sound.length < updates.length := by
        rw [← hsplit, List.length_append, List.length_cons]
        omega
      have hdata : v.data.isJson := by
        refine (hparts v ?_).2
        rw [← hsplit]
        simp
      rw [decide_eq_true hlength, ← hsplit, exec_runSteps_append hready hreplies,
        exec_runSteps_of_error (QuestionUpdate.request?_of_not_isSound form hdata hv)]
      exact iff_of_false (not_endsOrderly_misuse _ _) (by simp)

theorem updateQuestions_endsOrderly_iff (hu : u.IsJson) (abort : Bool) :
    EndsOrderly s ((updateQuestions c abort form u).exec s) ↔ ¬ u.BreaksOff .questions abort s := by
  cases hupdates : u.readQuestionUpdates with
  | error fault =>
    have hexec : (updateQuestions c abort form u).exec s = (.error fault, s) := by
      unfold updateQuestions
      rw [hupdates]
      rfl
    rw [hexec]
    refine iff_of_true ?_ ?_
    · exact endsOrderly_of_onlyRejects (UpdateRequest.onlyRejects_readQuestionUpdates hu) hupdates
        rfl
    · rintro ⟨updates, new, h, -⟩
      rw [hupdates] at h
      cases h
  | ok updates =>
    cases hnew : u.readNewQuestions with
    | error cause =>
      have hexec : (updateQuestions c abort form u).exec s = (.error (.rejected cause), s) := by
        unfold updateQuestions
        rw [hupdates, hnew]
        rfl
      rw [hexec]
      refine iff_of_true (.rejected cause s rfl) ?_
      rintro ⟨updates, new, -, h, -⟩
      rw [hnew] at h
      cases h
    | ok new =>
      rw [updateQuestions_endsOrderly_iff_of_ok hu.questionUpdates hupdates hnew]
      simp [UpdateRequest.BreaksOff, hupdates, hnew]

theorem handle_endsOrderly_iff (p : Publisher) (hu : u.IsJson) (kind : UpdateKind) (key : Value)
    (abort : Bool) (habort : p.abortOnFailure = abort) :
    EndsOrderly s ((p.handle kind key form u).exec s) ↔ ¬ u.BreaksOff kind abort s := by
  subst habort
  cases kind with
  | properties => exact updateProperties_endsOrderly_iff hu _
  | questions => exact updateQuestions_endsOrderly_iff hu _
  | conditions => exact updateConditions_endsOrderly_iff hu _

/-- The request in a JSON body ends with a result, turned down before any call, or with the failure
of a call, unless it breaks off: at data of a change that are sent but are no object, or at a reply
whose text is JSON that cannot be taken in. -/
theorem updateFromBody_orderly_iff (p : Publisher) {body : Value} (hbody : body.isJson)
    (s : Session) :
    EndsOrderly s ((p.updateFromBody body).exec s) ↔ ¬ p.BreaksOff body s := by
  by_cases hmap : ∃ data, body = .map data
  · obtain ⟨data, rfl⟩ := hmap
    obtain ⟨u, hu, hjson, hkey⟩ := UpdateRequest.exists_ofEntries_eq_ok hbody
    have hbreaks : p.BreaksOff (.map data) s ↔
        ∃ key form kind, p.checked u = .ok (key, form, kind) ∧
          u.BreaksOff kind p.abortOnFailure s := by
      constructor
      · rintro ⟨data', u', key, form, kind, hdata, hu', h⟩
        obtain rfl := Value.map.inj hdata
        obtain rfl := Except.ok.inj (hu.symm.trans hu')
        exact ⟨key, form, kind, h⟩
      · rintro ⟨key, form, kind, h⟩
        exact ⟨data, u, key, form, kind, rfl, hu, h⟩
    rw [hbreaks, exec_updateFromBody_map hu hkey]
    cases hchecked : p.checked u with
    | error cause =>
      rw [exec_updateForm_of_error hchecked]
      refine iff_of_true (.rejected cause s rfl) ?_
      rintro ⟨key, form, kind, h, -⟩
      cases h
    | ok found =>
      obtain ⟨key, form, kind⟩ := found
      rw [exec_updateForm hchecked, endsOrderly_blame_iff, ← endsOrderly_opened_iff key,
        handle_endsOrderly_iff p hjson kind key _ rfl]
      refine not_congr ⟨fun h => ⟨key, form, kind, rfl, h⟩, ?_⟩
      rintro ⟨key', form', kind', h, hbreaks'⟩
      obtain ⟨rfl, rfl, rfl⟩ : key = key' ∧ form = form' ∧ kind = kind' := by
        simpa using Except.ok.inj h
      exact hbreaks'
  · -- A body that is no object is turned down, for the lack of a key if for nothing else.
    have hread : UpdateRequest.read body = .error (.rejected .bodyNotObject) := by
      unfold UpdateRequest.read
      rw [Value.opened_of_isJson hbody]
      split
      · exact absurd ⟨_, rfl⟩ hmap
      · rfl
    rw [exec_updateFromBody_eq, hread]
    refine iff_of_true ?_ fun ⟨data, _, _, _, _, h, _⟩ => hmap ⟨data, h⟩
    cases resolveKey (bodyKey body) p.configuredKey with
    | error cause => exact .rejected cause s rfl
    | ok key => exact .rejected .bodyNotObject s rfl

/-- Data that are no object break a request off only if their turn comes: a publisher that stops at
the first failure may never come to them. -/
theorem updateFromBody_orderly_of_failed_delete :
    let p : Publisher := { configuredKey := .text "k", abortOnFailure := true }
    let body : Value := .object [("formId", .text "7"), ("updateType", .text "questions"),
      ("questionUpdates", .list [
        .object [("questionId", .text "5"), ("action", .text "delete")],
        .object [("questionId", .text "6"), ("action", .text "update"),
          ("questionData", .text "x")]])]
    let s : Session := { replies := [.response 404 ""] }
    EndsOrderly s ((p.updateFromBody body).exec s) := by
  intro p body s
  refine (updateFromBody_orderly_iff p (by decide) s).mpr ?_
  rintro ⟨data, u, key, form, kind, hdata, hu, hchecked, hbreaks⟩
  obtain rfl := Value.map.inj hdata
  obtain rfl := Except.ok.inj hu
  obtain ⟨-, hfound⟩ := Prod.mk.inj (Except.ok.inj hchecked)
  obtain ⟨-, rfl⟩ := Prod.mk.inj hfound
  obtain ⟨updates, new, hupdates, hnew, hsteps⟩ := hbreaks
  obtain rfl := Except.ok.inj hupdates
  obtain rfl := Except.ok.inj hnew
  revert hsteps
  decide +zetaReduce

/-- Data that are no object are found out after the question before them was deleted. -/
theorem updateFromBody_of_text_data :
    let p : Publisher := { configuredKey := .text "k" }
    let body : Value := .object [("formId", .text "7"), ("updateType", .text "questions"),
      ("questionUpdates", .list [
        .object [("questionId", .text "5"), ("action", .text "delete")],
        .object [("questionId", .text "6"), ("action", .text "update"),
          ("questionData", .text "x")]])]
    ((p.updateFromBody body).exec {}).1 = .error (.misuse (.noMember .text .items)) ∧
      ((p.updateFromBody body).exec {}).2.calls.map (fun c => (c.method.name, c.url)) =
        [("DELETE", "https://api.jotform.com/form/7/question/5")] ∧
      ¬ EndsOrderly {} ((p.updateFromBody body).exec {}) := by
  intro p body
  refine ⟨rfl, by decide +zetaReduce, ?_⟩
  exact not_endsOrderly_misuse (.noMember .text .items) _

end Publisher

end FormPublisher
