import FormPublisher.Proofs.Form.Encoding
import FormPublisher.Proofs.Publish.Update

/-!
# Replacing conditions

A request to replace the conditions of a form makes one call, with one field, whose text holds all
of the conditions (`updateForm_conditions`): it is read as objects in which the texts of the terms
and of the actions are read as objects again, and nothing of a condition is lost or changed.
-/

namespace FormPublisher

namespace Publisher

/-- The request for conditions to be replaced by those in a text. -/
def conditionsRequest (form text : String) : Request :=
  .updateProperties form [("properties[conditions]", text)]

/-- Conditions that are encoded with the identifiers of the session go out in one field. -/
theorem exec_updateConditions_of_run {u : UpdateRequest} {cs : List Condition}
    {es : List EncodedCondition} {s : Session} {ids : IdSupply} {text : String}
    (h : u.readConditions = .ok (some cs))
    (hrun : (encodeConditions cs).run.run s.ids = (.ok es, ids))
    (htext : Json.write .compact (.list (es.map EncodedCondition.toValue)) = .ok text)
    (c : Client) (form : String) :
    (updateConditions c form u).exec s =
      ((fun v => { message := .conditions, data := v }) <$>
        Client.outcome (conditionsRequest form text) (s.reply 0),
        { s with ids }.after [c.call (conditionsRequest form text)]) := by
  have hfields : (Value.object [("conditions", .text text)]).formFields "properties" =
      .ok [("properties[conditions]", text)] := rfl
  have hdrawing : (Session.drawing do
      compactText (.list ((← encodeConditions cs).map EncodedCondition.toValue))).exec s =
        (.ok text, { s with ids }) := by
    rw [Run.exec_drawing, Drawing.run_bind_of_ok hrun, compactText, htext]
    rfl
  unfold updateConditions
  rw [Run.exec_bind_ok (Run.exec_ensured_of_ok h s)]
  dsimp only
  rw [Run.exec_bind_ok hdrawing, Run.exec_bind_pure,
    c.exec_updateProperties (render_text form) hfields]
  rfl

theorem exec_updateConditions {u : UpdateRequest} {cs : List Condition}
    (h : u.readConditions = .ok (some cs)) (hcs : ∀ c ∈ cs, c.IsJson) (c : Client) (form : String)
    (s : Session) :
    ∃ ids text es, (updateConditions c form u).exec s =
        ((fun v => { message := .conditions, data := v }) <$>
          Client.outcome (conditionsRequest form text) (s.reply 0),
          { s with ids }.after [c.call (conditionsRequest form text)]) ∧
      AreEncodedAs 0 cs es ∧
      Json.write .compact (.list (es.map EncodedCondition.toValue)) = .ok text := by
  obtain ⟨es, ids, hrun, hes⟩ := gives_encodeFrom hcs 0 s.ids
  obtain ⟨text, htext⟩ := Json.exists_write_eq_ok .compact (isJson_list_of_areEncodedAs hes hcs)
  exact ⟨ids, text, es, exec_updateConditions_of_run h hrun htext c form, hes, htext⟩

/-- A request to replace conditions makes one call with one field, whose text is read as objects
from which all of the conditions can be had again. -/
theorem updateForm_conditions (p : Publisher) {u : UpdateRequest} {key : Value} {form : String}
    {items : List Value} {cs : List Condition}
    (hkey : resolveKey u.apiKey p.configuredKey = .ok key)
    (hid : u.formId = some form) (hform : form ≠ "")
    (hkind : u.kind = .text "conditions")
    (hitems : u.conditions = .list items)
    (hjson : ∀ item ∈ items, item.isJson)
    (hread : items.mapM Condition.read = .ok cs)
    (hplain : ∀ c ∈ cs, c.IsPlain)
    (s : Session) :
    ∃ ids text objects,
      ((p.updateForm u).exec s).2 =
        ({ s with ids, clientKeys := s.clientKeys ++ [key] } : Session).after [{
          method := .post
          url := trimSlashes p.apiUrl ++ ("/form/" ++ form ++ "/properties")
          apiKey := key
          timeout := p.timeout
          body := .form [("properties[conditions]", text)] }] ∧
      Json.IsTextOf text (.list objects) ∧ AreSentAs cs objects := by
  have hconditions := UpdateRequest.readConditions_of_list hitems hread
  have hcs : ∀ c ∈ cs, c.IsJson :=
    UpdateRequest.isJson_of_readConditions (hitems ▸ Value.isJson_list_iff.mpr hjson) hconditions
  have hchecked : p.checked u = .ok (key, form, .conditions) :=
    checked_eq_ok_iff.mpr ⟨hkey, hid, hform, by rw [hkind]; rfl⟩
  obtain ⟨ids, text, es, hexec, hes, htext⟩ :=
    exec_updateConditions hconditions hcs (p.client key) form (s.opened key)
  obtain ⟨objects, hobjects, hsent⟩ := exists_areSentAs hes hcs hplain htext
  refine ⟨ids, text, objects, ?_, hobjects, hsent⟩
  rw [exec_updateForm hchecked, handle, hexec]
  rfl

/-- A list with a quotation mark, a backslash and characters outside ASCII as an operator. -/
theorem updateForm_conditions_of_list_operator :
    let p : Publisher := { configuredKey := .text "k" }
    let operator : Value := .list [.text "\"\\ é😀", .null]
    let u : UpdateRequest := {
      formId := some "7"
      kind := .text "conditions"
      conditions := .list [.object [
        ("link", .text "Any"),
        ("id", .list [.bool true]),
        ("terms", .list [.object [("field", .text "3"), ("operator", operator),
          ("value", .bool true)]]),
        ("actions", .list [.object [("field", .text "5"), ("visibility", .text "Hide\n")]])]] }
    let c : Condition := {
      terms := [{ field := "3", operator, value := "True" }]
      actions := [{ field := "5", visibility := .text "Hide\n" }]
      link := .any
      id := some (.list [.bool true]) }
    ∃ ids text objects,
      ((p.updateForm u).exec {}).2 =
        ({ ids, clientKeys := [.text "k"] } : Session).after [{
          method := .post
          url := "https://api.jotform.com/form/7/properties"
          apiKey := .text "k"
          timeout := .int 30
          body := .form [("properties[conditions]", text)] }] ∧
      Json.IsTextOf text (.list objects) ∧ AreSentAs [c] objects := by
  intro p operator u c
  have hurl : trimSlashes p.apiUrl ++ ("/form/" ++ "7" ++ "/properties") =
      "https://api.jotform.com/form/7/properties" := by decide
  have hplain : c.IsPlain :=
    ⟨by simp [c, operator, Value.isPlain, arePlain, Scalar.isPlain],
      by simp [c, Value.isPlain, Scalar.isPlain],
      by simp [c, Value.isPlain, arePlain, Scalar.isPlain]⟩
  rw [← hurl]
  exact updateForm_conditions p rfl rfl (by decide) rfl rfl (by decide) rfl
    (List.forall_mem_singleton.mpr hplain) {}

end Publisher

end FormPublisher
