import FormPublisher.Proofs.Json.Lexing
import FormPublisher.Proofs.Publish.Steps
import FormPublisher.Proofs.Publish.Update

/-!
# Changing questions

`updateForm_questions` says all that a request to change questions does when the publisher does not
stop at the first failure: which calls it makes and in which order, what it reports on each of them,
and what it ends with.  The calls do not depend on the replies, and every report depends on the
reply to its own call alone.

There is one way in which a reply can keep later calls from being made, and it is none that the
publisher takes for a failure: its text is JSON with a literal or a nesting that is too large.
-/

namespace FormPublisher

/-- A reply that is an integer with too many digits is unreadable. -/
theorem Reply.answer_of_long_integer {n : Nat} (hn : Numeral.digitLimit < n) :
    (Reply.response 200 (String.ofList (List.replicate n '1'))).answer =
      .error (.unreadable (.digits n)) :=
  answer_of_literal rfl (Json.read_replicate_one hn)

/-! ### Adding questions -/

/-- The call that adds questions to a form: an object of the questions under their numbers. -/
def bulkCall (c : Client) (form : String) (questions : List Entries) : Call where
  method := .put
  url := trimSlashes c.apiUrl ++ "/form/" ++ form ++ "/questions"
  apiKey := c.apiKey
  timeout := c.timeout
  body := .json (.object [("questions",
    .map (questions.mapIdx fun i q => (.text (toString (i + 1)), .map q)))])

theorem call_addQuestions (c : Client) (form : String) (questions : List Entries) :
    c.call (.addQuestions form (questions.map .map)) = bulkCall c form questions := by
  have hnumbered : numbered (questions.map .map) =
      questions.mapIdx fun i q => (.text (toString (i + 1)), .map q) := by
    simp [numbered, List.mapIdx_eq_zipIdx_map, List.zipIdx_map, Function.comp_def]
  simp only [Client.call, bulkCall, Request.method, Request.path, Request.body, hnumbered,
    String.append_assoc]

theorem exec_addQuestions (c : Client) (form : String) (questions : List Entries) (s : Session) :
    (c.addQuestions (.text form) (.list (questions.map .map))).exec s =
      (Client.outcome (.addQuestions form (questions.map .map)) (s.reply 0),
        s.after [bulkCall c form questions]) := by
  rw [← call_addQuestions]
  exact c.exec_send _ s

namespace Publisher

/-- A request whose parts can be read makes its changes, and then adds the new questions if there
are any. -/
theorem exec_updateQuestions {u : UpdateRequest} {updates : List QuestionUpdate}
    {new : List Entries} (hupdates : u.readQuestionUpdates = .ok updates)
    (hnew : u.readNewQuestions = .ok new) (c : Client) (abort : Bool) (form : String)
    (s : Session) :
    (updateQuestions c abort form u).exec s =
      match (runSteps c abort form updates).exec s with
      | (.error fault, s') => (.error fault, s')
      | (.ok steps, s') =>
        if new.isEmpty then (.ok { message := .questions, data := reportSteps steps none }, s')
        else
          ((fun v => { message := .newQuestions, data := reportSteps steps (some v) }) <$>
              Client.outcome (.addQuestions form (new.map .map)) (s'.reply 0),
            s'.after [bulkCall c form new]) := by
  unfold updateQuestions
  rw [Run.exec_bind_ok (Run.exec_ensured_of_ok hupdates s),
    Run.exec_bind_ok (Run.exec_accepted_of_ok hnew s), Run.exec_bind]
  generalize (runSteps c abort form updates).exec s = out
  obtain ⟨steps | fault, s'⟩ := out
  · rfl
  · cases new.isEmpty with
    | true => rfl
    | false =>
      simp only [Bool.false_eq_true, if_false]
      rw [Run.exec_bind_pure, exec_addQuestions]

/-! ### The whole request -/

/-- The report on steps whose calls were answered, with what the provider said to the questions
added. -/
def reportAnswered (answered : List (PlannedStep × Reply)) (added : Option Value) : Value :=
  .object ([("steps", .list (answered.map fun x => x.1.report x.2)),
    ("failedSteps",
      .list ((answered.filter fun x => !x.2.succeeds).map fun x => x.1.report x.2))] ++
    (added.map fun v => ("result", v)).toList)

theorem reportSteps_record (form : String) (answered : List (PlannedStep × Reply))
    (added : Option Value) :
    reportSteps (answered.map fun x => x.1.record form x.2) added =
      reportAnswered answered added := by
  unfold reportSteps reportAnswered
  simp only [List.filter_map, List.map_map, Function.comp_def, PlannedStep.toValue_record,
    PlannedStep.succeeded_record]

/-- What a request to change questions ends with after its steps, given the reply to the call that
adds questions. -/
def questionsOutcome (answered : List (PlannedStep × Reply)) (new : List Entries) (bulk : Reply) :
    Except Fault Updated :=
  if new.isEmpty then .ok { message := .questions, data := reportAnswered answered none }
  else
    match bulk.answer with
    | .ok v => .ok { message := .newQuestions, data := reportAnswered answered (some v) }
    | .error (.failed status body) => .error (.provider ⟨.updateForm, status, body⟩)
    | .error (.unreadable cause) => .error (.literal cause)

theorem blame_addQuestions (form : String) (answered : List (PlannedStep × Reply))
    {new : List Entries} (hnew : new.isEmpty = false) (bulk : Reply) :
    blame .updateForm ((fun v => ({
        message := .newQuestions
        data := reportAnswered answered (some v) } : Updated)) <$>
          Client.outcome (.addQuestions form (new.map .map)) bulk) =
      questionsOutcome answered new bulk := by
  unfold questionsOutcome Client.outcome
  rw [hnew]
  cases bulk.answer with
  | ok v => rfl
  | error e => cases e <;> rfl

section Questions

variable {p : Publisher} {u : UpdateRequest} {key : Value} {form : String}
  {updates : List QuestionUpdate} {new : List Entries}

theorem exec_updateForm_of_questions (hkey : resolveKey u.apiKey p.configuredKey = .ok key)
    (hform : u.formId = some form) (hne : form ≠ "") (hkind : u.kind = .text "questions")
    (s : Session) :
    (p.updateForm u).exec s =
      (blame .updateForm
          ((updateQuestions (p.client key) p.abortOnFailure form u).exec (s.opened key)).1,
        ((updateQuestions (p.client key) p.abortOnFailure form u).exec (s.opened key)).2) := by
  have hchecked : p.checked u = .ok (key, form, .questions) :=
    checked_eq_ok_iff.mpr ⟨hkey, hform, hne, by rw [hkind]; rfl⟩
  rw [exec_updateForm hchecked]
  rfl

theorem isReady_of_readQuestionUpdates (form : String) (hjson : u.questionUpdates.isJson)
    (hupdates : u.readQuestionUpdates = .ok updates)
    (hdata : ∀ q ∈ updates, q.data.isTruthy → ∃ es, q.data = .map es) :
    ∀ q ∈ updates, q.IsReady form := by
  intro q hq
  obtain ⟨haction, hjsonData⟩ := UpdateRequest.isJson_of_readQuestionUpdates hjson hupdates q hq
  exact QuestionUpdate.isReady_of_isSound form haction hjsonData
    (QuestionUpdate.isSound_of_map (hdata q hq))

/-- When no reply to a step is unreadable, all steps are made and reported, and then the new
questions are added. -/
theorem exec_updateQuestions_of_readable (c : Client) (s : Session)
    (hready : ∀ q ∈ updates, q.IsReady form) (hupdates : u.readQuestionUpdates = .ok updates)
    (hnew : u.readNewQuestions = .ok new)
    (hreplies : ∀ x ∈ s.answered (plannedSteps updates),
      x.2.isUnreadable = false) :
    (blame .updateForm ((updateQuestions c false form u).exec s).1,
        ((updateQuestions c false form u).exec s).2) =
      (questionsOutcome (s.answered (plannedSteps updates)) new
          (s.reply (plannedSteps updates).length),
        s.after (((plannedSteps updates).map fun x => x.call c form) ++
          if new.isEmpty then [] else [bulkCall c form new])) := by
  have hr : ∀ x ∈ s.answered (plannedSteps updates), x.2.goesOn false := by
    intro x hx
    simp [Reply.goesOn, hreplies x hx]
  rw [exec_updateQuestions hupdates hnew, exec_runSteps hready hr]
  simp only [reportSteps_record]
  cases hempty : new.isEmpty with
  | true =>
    rw [if_pos rfl, if_pos rfl, List.append_nil, questionsOutcome, if_pos hempty]
    rfl
  | false =>
    rw [if_neg Bool.false_ne_true, if_neg Bool.false_ne_true]
    dsimp only
    rw [blame_addQuestions form _ hempty, Session.reply_after, List.length_map, Nat.add_zero,
      Session.after_append]

/-- The first unreadable reply to a step ends the request. -/
theorem exec_updateQuestions_of_unreadable (c : Client) (s : Session)
    (hready : ∀ q ∈ updates, q.IsReady form) (hupdates : u.readQuestionUpdates = .ok updates)
    (hnew : u.readNewQuestions = .ok new) {before rest : List (PlannedStep × Reply)}
    {x : PlannedStep × Reply} {cause : LiteralError}
    (hplan : s.answered (plannedSteps updates) = before ++ x :: rest)
    (hbefore : ∀ y ∈ before, y.2.isUnreadable = false)
    (hx : x.2.answer = .error (.unreadable cause)) :
    (updateQuestions c false form u).exec s =
      (.error (.literal cause), s.after ((before ++ [x]).map fun y => y.1.call c form)) := by
  have hr : ∀ y ∈ before, y.2.goesOn false := by
    intro y hy
    simp [Reply.goesOn, hbefore y hy]
  have hstop : x.2.goesOn false = false := by
    simp [Reply.goesOn, Reply.succeeds, Reply.isUnreadable, hx]
  have hfault : Client.outcome (x.1.request form) x.2 = .error (.literal cause) := by
    rw [Client.outcome, hx]
    rfl
  rw [exec_updateQuestions hupdates hnew,
    exec_runSteps_of_stop_at hready hplan hr hstop hfault]

/-- What a request to change questions does when the publisher does not stop at the first failure.
Every change to delete a question makes one call, and so does every change with data to update one,
in the order of the changes; a call to add the new questions follows if there are any.  Every call
is reported on by its own reply, and the failed ones once more.  Only a reply whose text is JSON
that cannot be taken in ends the request before its time. -/
theorem updateForm_questions (s : Session) (habort : p.abortOnFailure = false)
    (hkey : resolveKey u.apiKey p.configuredKey = .ok key) (hform : u.formId = some form)
    (hne : form ≠ "") (hkind : u.kind = .text "questions") (hjson : u.questionUpdates.isJson)
    (hupdates : u.readQuestionUpdates = .ok updates)
    (hdata : ∀ q ∈ updates, q.data.isTruthy → ∃ es, q.data = .map es)
    (hnew : u.readNewQuestions = .ok new) :
    let c := p.client key
    let plan := plannedSteps updates
    let answered := s.answered plan
    ((∀ x ∈ answered, x.2.isUnreadable = false) →
      (p.updateForm u).exec s =
        (questionsOutcome answered new (s.reply plan.length),
          (s.opened key).after ((plan.map fun x => x.call c form) ++
            if new.isEmpty then [] else [bulkCall c form new]))) ∧
    ∀ before x rest cause, answered = before ++ x :: rest →
      (∀ y ∈ before, y.2.isUnreadable = false) → x.2.answer = .error (.unreadable cause) →
        (p.updateForm u).exec s =
          (.error (.literal cause),
            (s.opened key).after ((before ++ [x]).map fun y => y.1.call c form)) := by
  intro c plan answered
  have hready := isReady_of_readQuestionUpdates form hjson hupdates hdata
  have hrun := exec_updateForm_of_questions hkey hform hne hkind s
  rw [habort] at hrun
  rw [hrun]
  constructor
  · intro hreplies
    exact exec_updateQuestions_of_readable c (s.opened key) hready hupdates hnew hreplies
  · intro before x rest cause hplan hbefore hx
    have hplan' : (s.opened key).answered plan = before ++ x :: rest := hplan
    rw [exec_updateQuestions_of_unreadable c _ hready hupdates hnew hplan' hbefore hx]
    rfl

theorem updateForm_questions_of_failed_delete :
    let p : Publisher := { configuredKey := .text "k" }
    let u : UpdateRequest := {
      formId := some "7"
      kind := .text "questions"
      questionUpdates := .list [
        .object [("questionId", .text "1"), ("action", .text "delete")],
        .object [("questionId", .text "2"), ("action", .text "update"),
          ("questionData", .object [("text", .text "Age")])],
        .object [("questionId", .text "3"), ("action", .text "add")]]
      newQuestions := .list [.object [("type", .text "control_textbox")]] }
    let s : Session := { replies := [.response 404 "", .fault, .response 200 "null"] }
    ((p.updateForm u).exec s).2.calls.map (fun c => (c.method.name, c.url)) =
        [("DELETE", "https://api.jotform.com/form/7/question/1"),
          ("POST", "https://api.jotform.com/form/7/question/2"),
          ("PUT", "https://api.jotform.com/form/7/questions")] ∧
      ∃ data, ((p.updateForm u).exec s).1 = .ok { message := .newQuestions, data } := by
  intro p u s
  have hkey : resolveKey u.apiKey p.configuredKey = .ok (.text "k") := rfl
  have hupdates : u.readQuestionUpdates = .ok [
      { question := "1", action := .text "delete" },
      { question := "2", action := .text "update", data := .object [("text", .text "Age")] },
      { question := "3", action := .text "add" }] := rfl
  have hdata : ∀ q ∈ [
      ({ question := "1", action := .text "delete" } : QuestionUpdate),
      { question := "2", action := .text "update", data := .object [("text", .text "Age")] },
      { question := "3", action := .text "add" }],
      q.data.isTruthy → ∃ es, q.data = .map es := by
    simp [Value.isTruthy, Value.object, Value.null, Scalar.isTruthy]
  have hnew : u.readNewQuestions = .ok [[(.text "type", .text "control_textbox")]] := rfl
  have h := (updateForm_questions s rfl hkey rfl (by decide) rfl (by decide) hupdates hdata
    hnew).1 ?_
  · rw [h]
    constructor
    · decide +zetaReduce
    · exact ⟨_, rfl⟩
  · decide +zetaReduce

/-- An integer that is too long, sent for the first of two questions to be deleted, keeps the second
one from being deleted. -/
theorem updateForm_questions_of_long_integer :
    let p : Publisher := { configuredKey := .text "k" }
    let u : UpdateRequest := {
      formId := some "7"
      kind := .text "questions"
      questionUpdates := .list [
        .object [("questionId", .text "1"), ("action", .text "delete")],
        .object [("questionId", .text "2"), ("action", .text "delete")]] }
    let s : Session := { replies := [.response 200 (String.ofList (List.replicate 4301 '1'))] }
    ((p.updateForm u).exec s).1 = .error (.literal (.digits 4301)) ∧
      ((p.updateForm u).exec s).2.calls.map (fun c => (c.method.name, c.url)) =
        [("DELETE", "https://api.jotform.com/form/7/question/1")] := by
  intro p u
  have hkey : resolveKey u.apiKey p.configuredKey = .ok (.text "k") := rfl
  have hupdates : u.readQuestionUpdates = .ok [
      { question := "1", action := .text "delete" },
      { question := "2", action := .text "delete" }] := rfl
  have hnew : u.readNewQuestions = .ok [] := rfl
  have hready : ∀ q ∈ [
      ({ question := "1", action := .text "delete" } : QuestionUpdate),
      { question := "2", action := .text "delete" }], q.IsReady "7" := by
    simp [QuestionUpdate.IsReady, QuestionUpdate.request?, QuestionUpdate.planned?,
      PlannedStep.request]
  have hrun (r : Reply) (cause : LiteralError) (hr : r.answer = .error (.unreadable cause)) :
      ((p.updateForm u).exec { replies := [r] }).1 = .error (.literal cause) ∧
        ((p.updateForm u).exec { replies := [r] }).2.calls.map (fun c => (c.method.name, c.url)) =
          [("DELETE", "https://api.jotform.com/form/7/question/1")] := by
    have hplan : (Session.opened { replies := [r] } (.text "k")).answered
        [({ action := .delete, question := "1" } : PlannedStep),
          { action := .delete, question := "2" }] =
        [] ++ ({ action := .delete, question := "1" }, r) ::
          [({ action := .delete, question := "2" }, .standard)] := rfl
    rw [exec_updateForm_of_questions hkey rfl (by decide) rfl,
      exec_updateQuestions_of_unreadable _ _ hready hupdates hnew hplan (by simp) hr]
    refine ⟨rfl, ?_⟩
    show [("DELETE", trimSlashes defaultApiUrl ++ "/form/" ++ "7" ++ "/question/" ++ "1")] = _
    decide
  exact hrun _ _ (Reply.answer_of_long_integer (by decide))

end Questions

end Publisher

end FormPublisher
