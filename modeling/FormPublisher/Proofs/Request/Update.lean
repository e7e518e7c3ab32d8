import FormPublisher.Proofs.Json.Value
import FormPublisher.Request.Update

/-!
# Requests that come as JSON

Reading a request to change a form out of JSON goes wrong in one way only: the request is turned
down (`onlyRejects_readQuestionUpdates`, `onlyRejects_readConditions`).  The texts of the request
can always be had, because JSON values can be written.  What is read holds JSON values again.
-/

namespace FormPublisher

variable {α β : Type}

/-! ### Turning down -/

/-- If a computation fails then because a request is turned down. -/
def OnlyRejects (x : Except Fault α) : Prop :=
  ∀ fault, x = .error fault → ∃ cause, fault = .rejected cause

theorem onlyRejects_ok (a : α) : OnlyRejects (.ok a) := by
  intro fault h
  cases h

theorem onlyRejects_mapError (x : Except Rejection α) : OnlyRejects (x.mapError .rejected) := by
  intro fault h
  cases x with
  | ok a => cases h
  | error cause => exact ⟨cause, (Except.error.inj h).symm⟩

theorem OnlyRejects.bind {x : Except Fault α} {f : α → Except Fault β} (hx : OnlyRejects x)
    (hf : ∀ a, x = .ok a → OnlyRejects (f a)) : OnlyRejects (x >>= f) := by
  intro fault h
  cases hxe : x with
  | error e =>
    rw [hxe] at h
    obtain rfl := Except.error.inj h
    exact hx e hxe
  | ok a =>
    rw [hxe] at h
    exact hf a hxe fault h

theorem OnlyRejects.mapM {xs : List α} {f : α → Except Fault β}
    (h : ∀ x ∈ xs, OnlyRejects (f x)) : OnlyRejects (xs.mapM f) := by
  induction xs with
  | nil => exact onlyRejects_ok []
  | cons x xs ih =>
    obtain ⟨hx, hxs⟩ := List.forall_mem_cons.mp h
    rw [List.mapM_cons]
    refine hx.bind fun y _ => ?_
    exact (ih hxs).bind fun ys _ => onlyRejects_ok (y :: ys)

/-! ### Entries -/

theorem Value.opened_of_entries? {v : Value} {es : Entries} (h : v.entries? = some es) :
    v.opened = .map es := by
  unfold entries? at h
  split at h
  case h_1 entries hopened =>
    obtain rfl := Option.some.inj h
    exact hopened
  case h_2 => cases h

/-- The entries that are read from a list are those of its items. -/
theorem exists_of_mem_entryList {v : Value} {place : String} {ess : List Entries}
    (h : entryList v place = .ok ess) {es : Entries} (hes : es ∈ ess) :
    ∃ items item, v.opened = .list items ∧ item ∈ items ∧ item.opened = .map es := by
  rcases entryList_eq_ok_iff.mp h with ⟨-, rfl⟩ | ⟨items, hitems, hmapM⟩
  · cases hes
  · suffices hitem : ∃ item ∈ items, item.opened = .map es by
      obtain ⟨item, hmem, hopened⟩ := hitem
      exact ⟨items, item, hitems, hmem, hopened⟩
    clear h hitems
    induction items generalizing ess with
    | nil =>
      obtain rfl := Option.some.inj hmapM
      cases hes
    | cons item items ih =>
      rw [List.mapM_cons, Option.bind_eq_bind, Option.bind_eq_some_iff] at hmapM
      obtain ⟨first, hfirst, hmapM⟩ := hmapM
      rw [Option.bind_eq_bind, Option.bind_eq_some_iff] at hmapM
      obtain ⟨rest, hrest, hcons⟩ := hmapM
      obtain rfl := Option.some.inj hcons
      rcases List.mem_cons.mp hes with rfl | hes
      · exact ⟨item, List.mem_cons_self, Value.opened_of_entries? hfirst⟩
      · obtain ⟨item', hmem, hopened⟩ := ih hes hrest
        exact ⟨item', List.mem_cons_of_mem _ hmem, hopened⟩

/-- The objects in a list of JSON are JSON objects. -/
theorem areJsonEntries_of_entryList {v : Value} (hv : v.isJson) {place : String}
    {ess : List Entries} (h : entryList v place = .ok ess) : ∀ es ∈ ess, areJsonEntries es := by
  intro es hes
  obtain ⟨items, item, hitems, hitem, hopened⟩ := exists_of_mem_entryList h hes
  rw [Value.opened_of_isJson hv] at hitems
  subst hitems
  have hjson := Value.isJson_list_iff.mp hv item hitem
  rw [Value.opened_of_isJson hjson] at hopened
  subst hopened
  exact hjson

namespace Entries

variable {es : Entries}

theorem isJson_of_require (hes : areJsonEntries es) {key place : String} {v : Value}
    (h : es.require key place = .ok v) : v.isJson := by
  have hget := isJson_get hes key
  unfold require at h
  dsimp only at h
  split at h
  · cases h
  · cases h
  · rwa [← Except.ok.inj h]

theorem isJson_of_present? (hes : areJsonEntries es) {key : String} {v : Value}
    (h : es.present? key = some v) : v.isJson :=
  Value.isJson_of_present? (isJson_get hes key) h

theorem areJsonEntries_of_entriesAt (hes : areJsonEntries es) {key : String} {ess : List Entries}
    (h : es.entriesAt key = .ok ess) : ∀ e ∈ ess, areJsonEntries e :=
  areJsonEntries_of_entryList (isJson_get hes key) h

end Entries

/-! ### Changes to questions -/

namespace QuestionUpdate

theorem read_eq (es : Entries) :
    read es = (do
      let question ← (es.require "questionId" "questionUpdates").mapError .rejected
      let text ← question.render.mapError .misuse
      let action ← (es.require "action" "questionUpdates").mapError .rejected
      return {
        question := text
        action
        data := es.get "questionData"
        newOrder := es.get "newOrder" }) := rfl

theorem onlyRejects_read {es : Entries} (hes : areJsonEntries es) : OnlyRejects (read es) := by
  rw [read_eq]
  -- The text of a JSON value can be had, so only the checks for missing parts can fail.
  refine (onlyRejects_mapError _).bind fun question hquestion => ?_
  have hjson := Entries.isJson_of_require hes (mapError_eq_ok_iff.mp hquestion)
  obtain ⟨text, htext⟩ := Value.exists_render_eq_ok hjson
  rw [htext, mapError_ok, ok_bind]
  exact (onlyRejects_mapError _).bind fun action _ => onlyRejects_ok _

/-- The action and the data of a change that is read out of a JSON object are JSON values. -/
theorem isJson_of_read {es : Entries} (hes : areJsonEntries es) {u : QuestionUpdate}
    (h : read es = .ok u) : u.action.isJson ∧ u.data.isJson := by
  rw [read_eq] at h
  obtain ⟨question, -, h⟩ := bind_eq_ok_iff.mp h
  obtain ⟨text, -, h⟩ := bind_eq_ok_iff.mp h
  obtain ⟨action, haction, h⟩ := bind_eq_ok_iff.mp h
  obtain rfl := Except.ok.inj h
  exact ⟨Entries.isJson_of_require hes (mapError_eq_ok_iff.mp haction), Entries.isJson_get hes _⟩

end QuestionUpdate

/-! ### Conditions -/

theorem Term.read_eq (es : Entries) :
    Term.read es = (do
      let field ← (es.require "field" "terms").mapError .rejected
      let fieldText ← field.render.mapError .misuse
      let operator ← (es.require "operator" "terms").mapError .rejected
      let value ← (es.getText "value").render.mapError .misuse
      return { field := fieldText, operator, value }) := rfl

theorem Term.onlyRejects_read {es : Entries} (hes : areJsonEntries es) :
    OnlyRejects (Term.read es) := by
  rw [Term.read_eq]
  refine (onlyRejects_mapError _).bind fun field hfield => ?_
  have hjson := Entries.isJson_of_require hes (mapError_eq_ok_iff.mp hfield)
  obtain ⟨fieldText, hfieldText⟩ := Value.exists_render_eq_ok hjson
  obtain ⟨value, hvalue⟩ := Value.exists_render_eq_ok (Entries.isJson_getText hes "value")
  rw [hfieldText, mapError_ok, ok_bind]
  refine (onlyRejects_mapError _).bind fun operator _ => ?_
  rw [hvalue, mapError_ok, ok_bind]
  exact onlyRejects_ok _

theorem Term.isJson_operator_of_read {es : Entries} (hes : areJsonEntries es) {t : Term}
    (h : Term.read es = .ok t) : t.operator.isJson := by
  rw [Term.read_eq] at h
  obtain ⟨field, -, h⟩ := bind_eq_ok_iff.mp h
  obtain ⟨fieldText, -, h⟩ := bind_eq_ok_iff.mp h
  obtain ⟨operator, hoperator, h⟩ := bind_eq_ok_iff.mp h
  obtain ⟨value, -, h⟩ := bind_eq_ok_iff.mp h
  obtain rfl := Except.ok.inj h
  exact Entries.isJson_of_require hes (mapError_eq_ok_iff.mp hoperator)

theorem Action.read_eq (es : Entries) :
    Action.read es = (do
      let field ← (es.require "field" "actions").mapError .rejected
      let fieldText ← field.render.mapError .misuse
      let visibility ← (es.require "visibility" "actions").mapError .rejected
      return { field := fieldText, visibility }) := rfl

theorem Action.onlyRejects_read {es : Entries} (hes : areJsonEntries es) :
    OnlyRejects (Action.read es) := by
  rw [Action.read_eq]
  refine (onlyRejects_mapError _).bind fun field hfield => ?_
  have hjson := Entries.isJson_of_require hes (mapError_eq_ok_iff.mp hfield)
  obtain ⟨fieldText, hfieldText⟩ := Value.exists_render_eq_ok hjson
  rw [hfieldText, mapError_ok, ok_bind]
  exact (onlyRejects_mapError _).bind fun visibility _ => onlyRejects_ok _

theorem Action.isJson_visibility_of_read {es : Entries} (hes : areJsonEntries es) {a : Action}
    (h : Action.read es = .ok a) : a.visibility.isJson := by
  rw [Action.read_eq] at h
  obtain ⟨field, -, h⟩ := bind_eq_ok_iff.mp h
  obtain ⟨fieldText, -, h⟩ := bind_eq_ok_iff.mp h
  obtain ⟨visibility, hvisibility, h⟩ := bind_eq_ok_iff.mp h
  obtain rfl := Except.ok.inj h
  exact Entries.isJson_of_require hes (mapError_eq_ok_iff.mp hvisibility)

namespace Condition

/-- A condition whose operators, visibilities and identifier are JSON values. -/
structure IsJson (c : Condition) : Prop where
  operator : ∀ t ∈ c.terms, t.operator.isJson
  visibility : ∀ a ∈ c.actions, a.visibility.isJson
  id : ∀ v, c.id = some v → v.isJson

theorem ofEntries_eq (data : Entries) :
    ofEntries data = (do
      let link ← (Link.read (data.get "link")).mapError .rejected
      let termEntries ← (data.entriesAt "terms").mapError .rejected
      let terms ← termEntries.mapM Term.read
      let actionEntries ← (data.entriesAt "actions").mapError .rejected
      let actions ← actionEntries.mapM Action.read
      return { terms, actions, link, id := data.present? "id" }) := rfl

variable {data : Entries}

theorem onlyRejects_ofEntries (hdata : areJsonEntries data) : OnlyRejects (ofEntries data) := by
  rw [ofEntries_eq]
  refine (onlyRejects_mapError _).bind fun link _ => ?_
  refine (onlyRejects_mapError _).bind fun termEntries hterms => ?_
  have hjson := Entries.areJsonEntries_of_entriesAt hdata (mapError_eq_ok_iff.mp hterms)
  refine (OnlyRejects.mapM fun es hes => Term.onlyRejects_read (hjson es hes)).bind
    fun terms _ => ?_
  refine (onlyRejects_mapError _).bind fun actionEntries hactions => ?_
  have hjson := Entries.areJsonEntries_of_entriesAt hdata (mapError_eq_ok_iff.mp hactions)
  refine (OnlyRejects.mapM fun es hes => Action.onlyRejects_read (hjson es hes)).bind
    fun actions _ => ?_
  exact onlyRejects_ok _

/-- A condition that is read out of a JSON object holds JSON values. -/
theorem isJson_of_ofEntries (hdata : areJsonEntries data) {c : Condition}
    (h : ofEntries data = .ok c) : c.IsJson := by
  rw [ofEntries_eq] at h
  obtain ⟨link, -, h⟩ := bind_eq_ok_iff.mp h
  obtain ⟨termEntries, htermEntries, h⟩ := bind_eq_ok_iff.mp h
  obtain ⟨terms, hterms, h⟩ := bind_eq_ok_iff.mp h
  obtain ⟨actionEntries, hactionEntries, h⟩ := bind_eq_ok_iff.mp h
  obtain ⟨actions, hactions, h⟩ := bind_eq_ok_iff.mp h
  obtain rfl := Except.ok.inj h
  refine ⟨fun t ht => ?_, fun a ha => ?_, fun v hv => Entries.isJson_of_present? hdata hv⟩
  · have hjson := Entries.areJsonEntries_of_entriesAt hdata (mapError_eq_ok_iff.mp htermEntries)
    obtain ⟨es, hes, hread⟩ := exists_of_mem_mapM hterms ht
    exact Term.isJson_operator_of_read (hjson es hes) hread
  · have hjson := Entries.areJsonEntries_of_entriesAt hdata (mapError_eq_ok_iff.mp hactionEntries)
    obtain ⟨es, hes, hread⟩ := exists_of_mem_mapM hactions ha
    exact Action.isJson_visibility_of_read (hjson es hes) hread

end Condition

/-! ### Requests -/

namespace UpdateRequest

/-- A request whose parts are JSON values. -/
structure IsJson (u : UpdateRequest) : Prop where
  properties : u.properties.isJson
  questionUpdates : u.questionUpdates.isJson
  newQuestions : u.newQuestions.isJson
  conditions : u.conditions.isJson

/-- A JSON object is always taken for a request, whose parts are JSON values. -/
theorem exists_ofEntries_eq_ok {data : Entries} (hdata : areJsonEntries data) :
    ∃ u, ofEntries data = .ok u ∧ u.IsJson ∧ u.apiKey = data.present? "apiKey" := by
  have hid : ∃ form, renderOptional (data.present? "formId") = .ok form := by
    cases h : data.present? "formId" with
    | none => exact ⟨none, rfl⟩
    | some v =>
      obtain ⟨text, htext⟩ := Value.exists_render_eq_ok (Entries.isJson_of_present? hdata h)
      exact ⟨some text, by rw [renderOptional, Option.mapM_some, htext]; rfl⟩
  obtain ⟨form, hform⟩ := hid
  refine ⟨_, by rw [ofEntries, hform]; rfl, ⟨?_, ?_, ?_, ?_⟩, rfl⟩
  all_goals exact Entries.isJson_get hdata _

/-- An object is a request unless the number of its form cannot be written. -/
theorem ofEntries_eq_ok_iff {data : Entries} {u : UpdateRequest} :
    ofEntries data = .ok u ↔
      ∃ form, renderOptional (data.present? "formId") = .ok form ∧
        u = {
          formId := form
          kind := data.get "updateType"
          apiKey := data.present? "apiKey"
          properties := data.get "properties"
          questionUpdates := data.get "questionUpdates"
          newQuestions := data.get "newQuestions"
          conditions := data.get "conditions" } := by
  unfold ofEntries
  cases renderOptional (data.present? "formId") with
  | error e => simp
  | ok form => simp [eq_comm]

theorem read_map_eq_ok_iff {data : Entries} {u : UpdateRequest} :
    read (.map data) = .ok u ↔ ofEntries data = .ok u := mapError_eq_ok_iff

theorem isJson_of_readQuestionUpdates {u : UpdateRequest} (hu : u.questionUpdates.isJson)
    {updates : List QuestionUpdate} (h : u.readQuestionUpdates = .ok updates) :
    ∀ q ∈ updates, q.action.isJson ∧ q.data.isJson := by
  obtain ⟨ess, hess, h⟩ := bind_eq_ok_iff.mp h
  intro q hq
  obtain ⟨es, hes, hread⟩ := exists_of_mem_mapM h hq
  exact QuestionUpdate.isJson_of_read
    (areJsonEntries_of_entryList hu (mapError_eq_ok_iff.mp hess) es hes) hread

variable {u : UpdateRequest}

theorem onlyRejects_readQuestionUpdates (hu : u.IsJson) : OnlyRejects u.readQuestionUpdates := by
  refine (onlyRejects_mapError _).bind fun ess hess => ?_
  refine OnlyRejects.mapM fun es hes => ?_
  exact QuestionUpdate.onlyRejects_read
    (areJsonEntries_of_entryList hu.questionUpdates (mapError_eq_ok_iff.mp hess) es hes)

theorem onlyRejects_readConditions (hu : u.IsJson) : OnlyRejects u.readConditions := by
  unfold readConditions
  split
  · exact onlyRejects_ok none
  · refine (onlyRejects_mapError _).bind fun ess hess => ?_
    refine OnlyRejects.bind (OnlyRejects.mapM fun es hes => ?_) fun cs _ => onlyRejects_ok _
    exact Condition.onlyRejects_ofEntries
      (areJsonEntries_of_entryList hu.conditions (mapError_eq_ok_iff.mp hess) es hes)

theorem isJson_of_readConditions (hu : u.conditions.isJson) {cs : List Condition}
    (h : u.readConditions = .ok (some cs)) : ∀ c ∈ cs, c.IsJson := by
  unfold readConditions at h
  split at h
  · cases h
  · obtain ⟨ess, hess, h⟩ := bind_eq_ok_iff.mp h
    obtain ⟨read, hread, h⟩ := bind_eq_ok_iff.mp h
    obtain rfl := Option.some.inj (Except.ok.inj h)
    intro c hc
    obtain ⟨es, hes, hentry⟩ := exists_of_mem_mapM hread hc
    exact Condition.isJson_of_ofEntries
      (areJsonEntries_of_entryList hu (mapError_eq_ok_iff.mp hess) es hes) hentry

/-- A list of conditions is read condition by condition. -/
theorem readConditions_of_list {items : List Value} (hitems : u.conditions = .list items)
    {cs : List Condition} (h : items.mapM Condition.read = .ok cs) :
    u.readConditions = .ok (some cs) := by
  obtain ⟨ess, hess, hcs⟩ : ∃ ess, items.mapM Value.entries? = some ess ∧
      ess.mapM Condition.ofEntries = .ok cs := by
    clear hitems
    induction items generalizing cs with
    | nil =>
      obtain rfl := Except.ok.inj h
      exact ⟨[], rfl, rfl⟩
    | cons item items ih =>
      rw [List.mapM_cons] at h
      obtain ⟨c, hc, h⟩ := bind_eq_ok_iff.mp h
      obtain ⟨rest, hrest, h⟩ := bind_eq_ok_iff.mp h
      obtain rfl := Except.ok.inj h
      obtain ⟨ess, hess, hcs⟩ := ih hrest
      unfold Condition.read at hc
      split at hc
      · rename_i es hes
        have hentries : item.entries? = some es := by
          rw [Value.entries?, hes]
        refine ⟨es :: ess, ?_, ?_⟩
        · rw [List.mapM_cons, hentries, hess]
          rfl
        · rw [List.mapM_cons, hc, ok_bind, hcs]
          rfl
      · cases hc
  have hlist : entryList (.list items) "conditions" = .ok ess :=
    entryList_eq_ok_iff.mpr (Or.inr ⟨items, rfl, hess⟩)
  rw [readConditions, hitems]
  show (do
    let entries ← (entryList (.list items) "conditions").mapError Fault.rejected
    return some (← entries.mapM Condition.ofEntries)) = _
  rw [hlist, mapError_ok, ok_bind, hcs]
  rfl

/-- The properties of a request are a JSON object. -/
theorem areJsonEntries_of_readProperties (hu : u.IsJson) {es : Entries}
    (h : u.readProperties = .ok (some es)) : areJsonEntries es := by
  have hjson := hu.properties
  unfold readProperties mappingOf at h
  rw [Value.opened_of_isJson hjson] at h
  split at h
  · cases h
  · rename_i entries hentries
    obtain rfl := Option.some.inj (Except.ok.inj h)
    rwa [hentries] at hjson
  · cases h

end UpdateRequest

end FormPublisher
