import FormPublisher.Proofs.Publish.Questions

/-!
# Stopping at the first failure

The same request to change questions, carried out by a publisher that stops at the first failure and
by one that goes on.  `StopsAtFailure` says how the two compare, given the calls of the second: the
calls of the first are the beginning of these, and both end alike if every change succeeds.
Otherwise the first publisher stops right after the first call that does not, adds no questions, and
blames the provider for this reply.  `updateFromBody_stopsAtFailure` proves it of every request.

The comparison is made step by step (`cutShort_runSteps`).  The two runs share the session up to the
first failure, and only there do they part.

One kind of reply stops both of them: JSON with a literal or a nesting that is too large.  The
provider is not blamed for it.
-/

namespace FormPublisher

variable {α β : Type}

theorem Session.map_fst_answered (s : Session) (xs : List α) :
    (s.answered xs).map (·.1) = xs := by
  unfold Session.answered
  apply List.ext_getElem
  · simp
  · simp

/-! ### The first failure -/

/-- The first of the steps whose reply was no success, and the steps before it. -/
structure IsFirstFailure (answered before : List (PlannedStep × Reply)) (x : PlannedStep × Reply) :
    Prop where
  split : ∃ rest, answered = before ++ x :: rest
  succeeded : ∀ y ∈ before, y.2.succeeds
  failed : x.2.succeeds = false

theorem exists_isFirstFailure {answered : List (PlannedStep × Reply)}
    (h : ¬ ∀ x ∈ answered, x.2.succeeds) : ∃ before x, IsFirstFailure answered before x := by
  have hsome : (answered.find? fun x => !x.2.succeeds).isSome := by
    simpa [List.find?_isSome] using h
  obtain ⟨x, hx⟩ := Option.isSome_iff_exists.mp hsome
  obtain ⟨hfailed, before, rest, hsplit, hbefore⟩ := List.find?_eq_some_iff_append.mp hx
  have hsucceeded : ∀ y ∈ before, y.2.succeeds := by
    intro y hy
    simpa using hbefore y hy
  exact ⟨before, x, ⟨rest, hsplit⟩, hsucceeded, by simpa using hfailed⟩

theorem not_isFirstFailure_nil {before : List (PlannedStep × Reply)} {x : PlannedStep × Reply} :
    ¬ IsFirstFailure [] before x := by
  rintro ⟨⟨rest, hsplit⟩, -, -⟩
  simp at hsplit

/-- The first failure is the first step itself, or it comes after a success. -/
theorem isFirstFailure_cons_iff {a x : PlannedStep × Reply}
    {answered before : List (PlannedStep × Reply)} :
    IsFirstFailure (a :: answered) before x ↔
      (before = [] ∧ x = a ∧ a.2.succeeds = false) ∨
        ∃ before', before = a :: before' ∧ a.2.succeeds ∧ IsFirstFailure answered before' x := by
  constructor
  · rintro ⟨⟨rest, hsplit⟩, hsucceeded, hfailed⟩
    cases before with
    | nil =>
      obtain ⟨rfl, -⟩ := List.cons.inj hsplit
      exact Or.inl ⟨rfl, rfl, hfailed⟩
    | cons b before =>
      obtain ⟨rfl, hrest⟩ := List.cons.inj hsplit
      obtain ⟨ha, hbefore⟩ := List.forall_mem_cons.mp hsucceeded
      exact Or.inr ⟨before, rfl, ha, ⟨rest, hrest⟩, hbefore, hfailed⟩
  · rintro (⟨rfl, rfl, hfailed⟩ | ⟨before, rfl, ha, ⟨rest, rfl⟩, hbefore, hfailed⟩)
    · exact ⟨⟨answered, rfl⟩, by simp, hfailed⟩
    · exact ⟨⟨rest, rfl⟩, List.forall_mem_cons.mpr ⟨ha, hbefore⟩, hfailed⟩

/-! ### Runs that are cut short -/

/-- The calls of some steps, and of the adding of questions after them. -/
def stepCalls (c : Client) (form : String) (steps : List PlannedStep)
    (added : Option (List Entries)) : List Call :=
  steps.map (·.call c form) ++ (added.map (bulkCall c form)).toList

/-- Two runs from one session: the long one makes the calls of some steps, and may add questions
after them.  The short one is the same run if all replies to the steps are successes, and otherwise
ends after the first that is none with what the call made of it. -/
structure CutShort (s : Session) (c : Client) (form : String) (steps : List PlannedStep)
    (added : Option (List Entries)) (short long : Except Fault α × Session) : Prop where
  session : long.2 = s.after (stepCalls c form steps added)
  same : (∀ x ∈ s.answered steps, x.2.succeeds) → short = long
  stopped : ∀ before x, IsFirstFailure (s.answered steps) before x →
    ∃ fault, Client.outcome (x.1.request form) x.2 = .error fault ∧
      short = (.error fault, s.after ((before ++ [x]).map fun y => y.1.call c form)) ∧
      (x.2.isUnreadable → short = long)

section CutShort

variable {s : Session} {c : Client} {form : String} {p : PlannedStep} {steps : List PlannedStep}
  {added : Option (List Entries)} {short long : Except Fault α × Session}

/-- A run without calls is not cut short. -/
theorem cutShort_refl (s : Session) (c : Client) (form : String) (out : Except Fault α) :
    CutShort s c form [] none (out, s) (out, s) where
  session := by simp [stepCalls]
  same _ := rfl
  stopped _ _ h := absurd h not_isFirstFailure_nil

/-- What comes after two runs keeps the short one short if it leaves errors as they are. -/
theorem CutShort.map (h : CutShort s c form steps none short long)
    {f : Except Fault α × Session → Except Fault β × Session}
    (hf : ∀ fault s', f (.error fault, s') = (.error fault, s'))
    (hlong : (f long).2 = s.after (stepCalls c form steps added)) :
    CutShort s c form steps added (f short) (f long) where
  session := hlong
  same hall := congrArg f (h.same hall)
  stopped before x hx := by
    obtain ⟨fault, hfault, hshort, hsame⟩ := h.stopped before x hx
    refine ⟨fault, hfault, ?_, fun hunreadable => congrArg f (hsame hunreadable)⟩
    rw [hshort, hf]

/-- After a success both runs go on. -/
theorem CutShort.cons (hp : (s.reply 0).succeeds)
    (h : CutShort (s.after [p.call c form]) c form steps none short long) :
    CutShort s c form (p :: steps) none short long where
  session := by
    rw [h.session, ← s.after_append]
    rfl
  same hall := by
    rw [s.answered_cons _ _ (p.call c form)] at hall
    exact h.same (List.forall_mem_cons.mp hall).2
  stopped before x hx := by
    rw [s.answered_cons _ _ (p.call c form), isFirstFailure_cons_iff] at hx
    rcases hx with ⟨-, -, hfailed⟩ | ⟨before, rfl, -, hx⟩
    · rw [hp] at hfailed
      cases hfailed
    · obtain ⟨fault, hfault, hshort, hsame⟩ := h.stopped before x hx
      refine ⟨fault, hfault, ?_, hsame⟩
      rw [hshort, ← s.after_append]
      rfl

/-- At the first failure the short run ends, and the long one goes on if the reply can be read. -/
theorem cutShort_of_failed {fault : Fault}
    (hfault : Client.outcome (p.request form) (s.reply 0) = .error fault)
    (hp : (s.reply 0).succeeds = false)
    (hlong : long.2 = s.after (stepCalls c form (p :: steps) none))
    (hsame : (s.reply 0).isUnreadable →
      ((.error fault, s.after [p.call c form]) : Except Fault α × Session) = long) :
    CutShort s c form (p :: steps) none (.error fault, s.after [p.call c form]) long where
  session := hlong
  same hall := by
    rw [s.answered_cons _ _ (p.call c form)] at hall
    have hfirst := (List.forall_mem_cons.mp hall).1
    rw [hp] at hfirst
    cases hfirst
  stopped before x hx := by
    rw [s.answered_cons _ _ (p.call c form), isFirstFailure_cons_iff] at hx
    rcases hx with ⟨rfl, rfl, -⟩ | ⟨before, rfl, hsucceeds, -⟩
    · exact ⟨fault, hfault, rfl, hsame⟩
    · rw [hp] at hsucceeds
      cases hsucceeds

end CutShort

/-! ### Steps -/

/-- A change that asks for a call asks for the call of a step. -/
theorem QuestionUpdate.exists_plannedStep {u : QuestionUpdate} {form : String}
    {action : StepAction} {request : Request} (h : u.request? form = .ok (some (action, request))) :
    ∃ p : PlannedStep, p.action = action ∧ p.question = u.question ∧ p.request form = request := by
  unfold request? at h
  split at h
  · obtain ⟨rfl, rfl⟩ := Prod.mk.inj (Option.some.inj (Except.ok.inj h))
    exact ⟨{ action := .delete, question := u.question }, rfl, rfl, rfl⟩
  · split at h
    · obtain ⟨fields, -, h⟩ := bind_eq_ok_iff.mp h
      obtain ⟨rfl, rfl⟩ := Prod.mk.inj (Option.some.inj (Except.ok.inj h))
      exact ⟨{ action := .update, question := u.question, fields }, rfl, rfl, rfl⟩
    · cases h
  · obtain ⟨_, -, h⟩ := bind_eq_ok_iff.mp h
    cases h

/-- Changes to questions are cut short at the first failure. -/
theorem cutShort_runSteps (c : Client) (form : String) (us : List QuestionUpdate) (s : Session) :
    ∃ steps, CutShort s c form steps none ((runSteps c true form us).exec s)
      ((runSteps c false form us).exec s) := by
  -- Both runs come to the rest of the changes in the same session, unless one of them has ended.
  induction us generalizing s with
  | nil => exact ⟨[], cutShort_refl s c form (.ok [])⟩
  | cons u us ih =>
    rcases hu : u.request? form with e | _ | ⟨action, request⟩
    · rw [exec_runSteps_of_error hu, exec_runSteps_of_error hu]
      exact ⟨[], cutShort_refl s c form _⟩
    · rw [exec_runSteps_of_none hu, exec_runSteps_of_none hu]
      exact ih s
    · obtain ⟨p, rfl, hquestion, rfl⟩ := QuestionUpdate.exists_plannedStep hu
      obtain ⟨steps, hsteps⟩ := ih (s.after [p.call c form])
      rw [exec_runSteps_of_some hquestion hu, exec_runSteps_of_some hquestion hu]
      rcases Client.outcome_cases (p.request form) (s.reply 0) with
        ⟨hp, v, -, hout⟩ | ⟨hp, hread, hout⟩ | ⟨hp, -, cause, -, hout⟩
      · rw [hout]
        refine ⟨p :: steps, CutShort.cons hp ?_⟩
        exact hsteps.map (f := recorded [{ action := p.action, question := p.question }])
          (fun _ _ => rfl) hsteps.session
      · rw [hout]
        refine ⟨p :: steps, cutShort_of_failed hout hp ?_ ?_⟩
        · show ((runSteps c false form us).exec (s.after [p.call c form])).2 = _
          rw [hsteps.session, ← s.after_append]
          rfl
        · intro hunreadable
          rw [hread] at hunreadable
          cases hunreadable
      · rw [hout]
        exact ⟨[p], cutShort_of_failed hout hp rfl fun _ => rfl⟩

namespace Publisher

/-- What follows the steps of a request: the new questions are added if there are any. -/
def addAfter (c : Client) (form : String) (new : List Entries) :
    Except Fault (List Step) × Session → Except Fault Updated × Session
  | (.error fault, s) => (.error fault, s)
  | (.ok steps, s) =>
    if new.isEmpty then (.ok { message := .questions, data := reportSteps steps none }, s)
    else
      ((fun v => { message := .newQuestions, data := reportSteps steps (some v) }) <$>
          Client.outcome (.addQuestions form (new.map .map)) (s.reply 0),
        s.after [bulkCall c form new])

theorem addAfter_error (c : Client) (form : String) (new : List Entries) (fault : Fault)
    (s : Session) : addAfter c form new (.error fault, s) = (.error fault, s) := rfl

theorem exec_updateQuestions_eq_addAfter {u : UpdateRequest} {updates : List QuestionUpdate}
    {new : List Entries} (hupdates : u.readQuestionUpdates = .ok updates)
    (hnew : u.readNewQuestions = .ok new) (c : Client) (abort : Bool) (form : String)
    (s : Session) :
    (updateQuestions c abort form u).exec s =
      addAfter c form new ((runSteps c abort form updates).exec s) := by
  rw [exec_updateQuestions hupdates hnew]
  generalize (runSteps c abort form updates).exec s = out
  obtain ⟨fault | steps, s'⟩ := out <;> rfl

/-- The calls of a run are those of its steps and at most one that adds questions. -/
theorem exists_session_addAfter (c : Client) (form : String) (new : List Entries)
    (out : Except Fault (List Step) × Session) :
    ∃ added : Option (List Entries),
      (addAfter c form new out).2 = out.2.after (added.map (bulkCall c form)).toList := by
  obtain ⟨fault | steps, s⟩ := out
  · exact ⟨none, s.after_nil.symm⟩
  · by_cases hempty : new.isEmpty = true
    · refine ⟨none, ?_⟩
      rw [addAfter, if_pos hempty]
      exact s.after_nil.symm
    · refine ⟨some new, ?_⟩
      rw [addAfter, if_neg hempty]
      rfl

/-- A request to change questions is cut short at the first failure, before questions are added. -/
theorem cutShort_updateQuestions (c : Client) (form : String) (u : UpdateRequest) (s : Session) :
    ∃ steps added, CutShort s c form steps added ((updateQuestions c true form u).exec s)
      ((updateQuestions c false form u).exec s) := by
  cases hupdates : u.readQuestionUpdates with
  | error fault =>
    have hexec (abort : Bool) : (updateQuestions c abort form u).exec s = (.error fault, s) := by
      unfold updateQuestions
      rw [hupdates]
      rfl
    rw [hexec, hexec]
    exact ⟨[], none, cutShort_refl s c form _⟩
  | ok updates =>
    cases hnew : u.readNewQuestions with
    | error cause =>
      have hexec (abort : Bool) :
          (updateQuestions c abort form u).exec s = (.error (.rejected cause), s) := by
        unfold updateQuestions
        rw [hupdates, hnew]
        rfl
      rw [hexec, hexec]
      exact ⟨[], none, cutShort_refl s c form _⟩
    | ok new =>
      obtain ⟨steps, h⟩ := cutShort_runSteps c form updates s
      obtain ⟨added, hadded⟩ :=
        exists_session_addAfter c form new ((runSteps c false form updates).exec s)
      rw [exec_updateQuestions_eq_addAfter hupdates hnew,
        exec_updateQuestions_eq_addAfter hupdates hnew]
      refine ⟨steps, added, h.map (addAfter_error c form new) ?_⟩
      rw [hadded, h.session, ← s.after_append]
      simp [stepCalls]

/-! ### The whole request -/

/-- How a request to change questions is carried out by a publisher that stops at the first failure,
and by one that goes on.  The latter makes the calls of some steps, to delete or to update a
question, and may add questions after them. -/
structure StopsAtFailure (s : Session) (c : Client) (form : String) (steps : List PlannedStep)
    (added : Option (List Entries)) (stopping continuing : Except Fault Updated × Session) :
    Prop where
  calls : continuing.2.calls = s.calls ++ stepCalls c form steps added
  calls_prefix : stopping.2.calls <+: continuing.2.calls
  same : (∀ x ∈ s.answered steps, x.2.succeeds) → stopping = continuing
  stopped : ∀ before x, IsFirstFailure (s.answered steps) before x →
    stopping.2.calls = s.calls ++ (before ++ [x]).map fun y => y.1.call c form
  failure : ∀ before x, IsFirstFailure (s.answered steps) before x → x.2.isUnreadable = false →
    ∃ e, stopping.1 = .error (.provider e) ∧ e.message = "Failed to update form" ∧
      e.status = x.2.errorStatus? ∧ e.body = x.2.errorText?
  unreadable : ∀ before x cause, IsFirstFailure (s.answered steps) before x →
    x.2.answer = .error (.unreadable cause) →
    stopping = continuing ∧ stopping.1 = .error (.literal cause)

theorem message_updateForm (status : Option Int) (body : Option String) :
    (ProviderError.mk .updateForm status body).message = "Failed to update form" := by
  show "Failed to " ++ Operation.updateForm.describe = "Failed to update form"
  decide

/-- A request that is turned down makes no call, whether or not the publisher stops at failures. -/
theorem stopsAtFailure_refl (s : Session) (c : Client) (form : String)
    (out : Except Fault Updated) : StopsAtFailure s c form [] none (out, s) (out, s) where
  calls := by simp [stepCalls]
  calls_prefix := List.prefix_rfl
  same _ := rfl
  stopped _ _ h := absurd h not_isFirstFailure_nil
  failure _ _ h := absurd h not_isFirstFailure_nil
  unreadable _ _ _ h := absurd h not_isFirstFailure_nil

/-- The handler of a request is cut short, and the whole request blames the failure on the
provider. -/
theorem stopsAtFailure_of_cutShort {s : Session} {key : Value} {c : Client} {form : String}
    {steps : List PlannedStep} {added : Option (List Entries)}
    {short long : Except Fault Updated × Session}
    (h : CutShort (s.opened key) c form steps added short long) :
    StopsAtFailure s c form steps added (blame .updateForm short.1, short.2)
      (blame .updateForm long.1, long.2) where
  calls := by
    show long.2.calls = _
    rw [h.session, Session.calls_after]
    rfl
  calls_prefix := by
    show short.2.calls <+: long.2.calls
    by_cases hall : ∀ x ∈ (s.opened key).answered steps, x.2.succeeds
    · obtain rfl := h.same hall
      exact List.prefix_rfl
    · obtain ⟨before, x, hx⟩ := exists_isFirstFailure hall
      obtain ⟨rest, hsplit⟩ := hx.split
      obtain ⟨fault, -, hshort, -⟩ := h.stopped before x hx
      have hsteps : steps.map (·.call c form) =
          (before ++ [x]).map (fun y => y.1.call c form) ++ rest.map fun y => y.1.call c form := by
        conv_lhs => rw [← (s.opened key).map_fst_answered steps, hsplit]
        simp [Function.comp_def]
      rw [h.session, hshort, Session.calls_after, Session.calls_after, stepCalls, hsteps,
        List.append_assoc, ← List.append_assoc (s.opened key).calls]
      exact List.prefix_append _ _
  same hall := by
    rw [h.same hall]
  stopped before x hx := by
    obtain ⟨fault, -, hshort, -⟩ := h.stopped before x hx
    show short.2.calls = _
    rw [hshort, Session.calls_after]
    rfl
  failure before x hx hreadable := by
    obtain ⟨fault, hfault, hshort, -⟩ := h.stopped before x hx
    rcases Client.outcome_cases (x.1.request form) x.2 with
      ⟨hs, -⟩ | ⟨-, -, hout⟩ | ⟨-, hunreadable, -⟩
    · rw [hx.failed] at hs
      cases hs
    · rw [hfault] at hout
      obtain rfl := Except.error.inj hout
      refine ⟨⟨.updateForm, x.2.errorStatus?, x.2.errorText?⟩, ?_, message_updateForm _ _, rfl, rfl⟩
      rw [hshort]
      rfl
    · rw [hreadable] at hunreadable
      cases hunreadable
  unreadable before x cause hx hcause := by
    obtain ⟨fault, hfault, hshort, hsame⟩ := h.stopped before x hx
    have hunreadable : x.2.isUnreadable = true := by
      rw [Reply.isUnreadable, hcause]
    have hout : Client.outcome (x.1.request form) x.2 = .error (.literal cause) := by
      rw [Client.outcome, hcause]
      rfl
    rw [hfault] at hout
    obtain rfl := Except.error.inj hout
    refine ⟨by rw [hsame hunreadable], ?_⟩
    rw [hshort]
    rfl

theorem checked_abortOnFailure (p : Publisher) (abort : Bool) (u : UpdateRequest) :
    { p with abortOnFailure := abort }.checked u = p.checked u := rfl

theorem stopsAtFailure_updateForm (p : Publisher) {u : UpdateRequest}
    (hkind : u.kind = .text "questions") (s : Session) :
    ∃ c form steps added, StopsAtFailure s c form steps added
      (({ p with abortOnFailure := true }.updateForm u).exec s)
      (({ p with abortOnFailure := false }.updateForm u).exec s) := by
  cases hchecked : p.checked u with
  | error cause =>
    have hexec (abort : Bool) :
        ({ p with abortOnFailure := abort }.updateForm u).exec s =
          (.error (.rejected cause), s) := by
      rw [exec_updateForm_of_error (by rw [checked_abortOnFailure, hchecked])]
    rw [hexec, hexec]
    exact ⟨p.client .null, "", [], none, stopsAtFailure_refl s _ _ _⟩
  | ok checked =>
    obtain ⟨key, form, kind⟩ := checked
    obtain ⟨hkey, hform, hne, -⟩ := checked_eq_ok_iff.mp hchecked
    obtain ⟨steps, added, h⟩ := cutShort_updateQuestions (p.client key) form u (s.opened key)
    refine ⟨p.client key, form, steps, added, ?_⟩
    have hexec (abort : Bool) :
        ({ p with abortOnFailure := abort }.updateForm u).exec s =
          (blame .updateForm ((updateQuestions (p.client key) abort form u).exec (s.opened key)).1,
            ((updateQuestions (p.client key) abort form u).exec (s.opened key)).2) :=
      exec_updateForm_of_questions (p := { p with abortOnFailure := abort }) hkey hform hne hkind s
    rw [hexec, hexec]
    exact stopsAtFailure_of_cutShort h

/-- Every request to change questions, carried out by a publisher that stops at the first failure,
and by one that goes on. -/
theorem updateFromBody_stopsAtFailure (p : Publisher) (data : Entries)
    (hkind : data.get "updateType" = .text "questions") (s : Session) :
    ∃ c form steps added, StopsAtFailure s c form steps added
      (({ p with abortOnFailure := true }.updateFromBody (.map data)).exec s)
      (({ p with abortOnFailure := false }.updateFromBody (.map data)).exec s) := by
  rw [exec_updateFromBody_eq, exec_updateFromBody_eq]
  cases resolveKey (bodyKey (.map data)) p.configuredKey with
  | error cause => exact ⟨p.client .null, "", [], none, stopsAtFailure_refl s _ _ _⟩
  | ok key =>
    cases hread : UpdateRequest.read (.map data) with
    | error fault => exact ⟨p.client .null, "", [], none, stopsAtFailure_refl s _ _ _⟩
    | ok u =>
      have hquestions : u.kind = .text "questions" := by
        have hu := UpdateRequest.read_map_eq_ok_iff.mp hread
        obtain ⟨form, -, rfl⟩ := UpdateRequest.ofEntries_eq_ok_iff.mp hu
        exact hkind
      exact stopsAtFailure_updateForm p hquestions s

/-- Of three questions to be deleted and one to be added, the second one is not deleted. -/
theorem updateFromBody_stopsAtFailure_of_busy :
    let p : Publisher := {}
    let data : Entries := [(.text "apiKey", .text "k"), (.text "formId", .text "7"),
      (.text "updateType", .text "questions"),
      (.text "questionUpdates", .list [
        .object [("questionId", .text "1"), ("action", .text "delete")],
        .object [("questionId", .text "2"), ("action", .text "delete")],
        .object [("questionId", .text "3"), ("action", .text "delete")]]),
      (.text "newQuestions", .list [.object [("type", .text "control_textbox")]])]
    let s : Session := { replies := [.response 200 "null", .response 503 "busy",
      .response 200 "null", .response 200 "null"] }
    let stopping := ({ p with abortOnFailure := true }.updateFromBody (.map data)).exec s
    let continuing := ({ p with abortOnFailure := false }.updateFromBody (.map data)).exec s
    data.get "updateType" = .text "questions" ∧
      (∃ c form steps added, StopsAtFailure s c form steps added stopping continuing) ∧
      stopping.2.calls.map (fun c => (c.method.name, c.url)) =
        [("DELETE", "https://api.jotform.com/form/7/question/1"),
          ("DELETE", "https://api.jotform.com/form/7/question/2")] ∧
      continuing.2.calls.map (fun c => (c.method.name, c.url)) =
        [("DELETE", "https://api.jotform.com/form/7/question/1"),
          ("DELETE", "https://api.jotform.com/form/7/question/2"),
          ("DELETE", "https://api.jotform.com/form/7/question/3"),
          ("PUT", "https://api.jotform.com/form/7/questions")] ∧
      stopping.1 = .error (.provider ⟨.updateForm, some 503, some "busy"⟩) := by
  intro p data s stopping continuing
  have hkind : data.get "updateType" = .text "questions" := rfl
  refine ⟨hkind, updateFromBody_stopsAtFailure p data hkind s, ?_, ?_, ?_⟩
  · decide +zetaReduce
  · decide +zetaReduce
  · rfl

/-- An integer that is too long is no success, but the provider is not blamed for it. -/
theorem updateFromBody_stopping_of_long_integer :
    let p : Publisher := { abortOnFailure := true }
    let data : Entries := [(.text "apiKey", .text "k"), (.text "formId", .text "7"),
      (.text "updateType", .text "questions"),
      (.text "questionUpdates", .list [
        .object [("questionId", .text "1"), ("action", .text "delete")]])]
    let s : Session := { replies := [.response 200 (String.ofList (List.replicate 4301 '1'))] }
    (s.reply 0).succeeds = false ∧
      ((p.updateFromBody (.map data)).exec s).2.calls.map (fun c => (c.method.name, c.url)) =
        [("DELETE", "https://api.jotform.com/form/7/question/1")] ∧
      ((p.updateFromBody (.map data)).exec s).1 = .error (.literal (.digits 4301)) := by
  intro p data
  let u : UpdateRequest := {
    formId := some "7"
    kind := .text "questions"
    apiKey := some (.text "k")
    questionUpdates := .list [.object [("questionId", .text "1"), ("action", .text "delete")]] }
  let update : QuestionUpdate := { question := "1", action := .text "delete" }
  let step : PlannedStep := { action := .delete, question := "1" }
  have hrun (r : Reply) (cause : LiteralError) (hr : r.answer = .error (.unreadable cause)) :
      (Session.reply { replies := [r] } 0).succeeds = false ∧
        ((p.updateFromBody (.map data)).exec { replies := [r] }).2.calls.map
          (fun c => (c.method.name, c.url)) =
            [("DELETE", "https://api.jotform.com/form/7/question/1")] ∧
        ((p.updateFromBody (.map data)).exec { replies := [r] }).1 = .error (.literal cause) := by
    have hupdates : u.readQuestionUpdates = .ok [update] := rfl
    have hnew : u.readNewQuestions = .ok [] := rfl
    have hfailed : r.succeeds = false := by rw [Reply.succeeds, hr]
    have hout : Client.outcome (step.request "7") r = .error (.literal cause) := by
      rw [Client.outcome, hr]
      rfl
    have hsteps (c : Client) (s : Session) (hs : s.reply 0 = r) :
        (runSteps c true "7" [update]).exec s =
          (.error (.literal cause), s.after [step.call c "7"]) := by
      rw [exec_runSteps_of_some (p := step) rfl rfl, hs, hout]
    have hrequest : (p.updateFromBody (.map data)).exec { replies := [r] } =
        (p.updateForm u).exec { replies := [r] } := exec_updateFromBody_map rfl rfl p _
    have hexec : (p.updateFromBody (.map data)).exec { replies := [r] } =
        (.error (.literal cause),
          (Session.opened { replies := [r] } (.text "k")).after
            [step.call (p.client (.text "k")) "7"]) := by
      rw [hrequest, exec_updateForm_of_questions rfl rfl (by decide) rfl,
        exec_updateQuestions hupdates hnew, hsteps _ _ rfl]
      rfl
    rw [hexec]
    refine ⟨hfailed, ?_, rfl⟩
    show [("DELETE", trimSlashes defaultApiUrl ++ "/form/" ++ "7" ++ "/question/" ++ "1")] = _
    decide
  exact hrun _ _ (Reply.answer_of_long_integer (by decide))

end Publisher

end FormPublisher
