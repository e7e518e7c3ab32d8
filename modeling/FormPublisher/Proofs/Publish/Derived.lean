import FormPublisher.Proofs.Form.References
import FormPublisher.Proofs.Publish.Bodies
import FormPublisher.Proofs.Publish.Conditions
import FormPublisher.Proofs.Request.Condition

/-!
# Derived conditions, made and sent

The condition that a document asks for can reach the provider in two ways: in the payload of a new
form, where it is an object among the properties, or in a request to replace the conditions of a
form, where it is read out of the request first and then sent as the text of one field.  Both ways
come to the same (`updateFromBody_derived`): the request says the condition that was derived, and
the text is the text of the very list that is in the payload, down to the identifiers if these are
drawn from the same supply.
-/

namespace FormPublisher

/-! ### In a payload -/

/-- A derived condition is the only one, and has no identifier of its own. -/
theorem Condition.derive_eq_of_mem {visibility : Visibility} {qs : List Question} {c : Condition}
    (h : c ∈ derive visibility qs) : derive visibility qs = [c] ∧ c.id = none := by
  unfold derive at h ⊢
  dsimp only at h ⊢
  split at h
  · rename_i hwanted
    obtain rfl := List.mem_singleton.mp h
    exact ⟨if_pos hwanted, rfl⟩
  · cases h

/-! ### In a text -/

/-- A condition without an identifier of its own is encoded alone, and under a text. -/
theorem exists_eq_singleton_of_areEncodedAs {c : Condition} (hid : c.id = none)
    {es : List EncodedCondition} (hes : AreEncodedAs 0 [c] es) :
    ∃ e id, es = [e] ∧ e.id = .text id := by
  obtain ⟨e, rest, hencoded, hrest, rfl⟩ := List.forall₂_cons_left_iff.mp hes
  obtain rfl := List.forall₂_nil_left_iff.mp hrest
  obtain ⟨id, he⟩ : ∃ id : String, e.id = .text id := by
    have hmay := hencoded.id
    rw [Condition.MaySendId, hid] at hmay
    exact hmay
  exact ⟨e, id, rfl, he⟩

/-- Its object stands in a list, and there is nothing but texts in it. -/
theorem nesting_list_toValue {e : EncodedCondition} {id : String} (h : e.id = .text id) :
    (Value.list [e.toValue]).nesting = 2 := by
  rw [EncodedCondition.toValue, h]
  rfl

namespace Publisher

/-- A condition that a document asks for is the same whether its form is made or it is sent to a
form that exists: the request reads the condition that was derived, and the text in its only field
is read as the list that is among the properties in the payload. -/
theorem updateFromBody_derived (p : Publisher) {d : Document} {form : CompiledForm} {c : Condition}
    {body : Value} {u : UpdateRequest} {key : Value} {id : String}
    (hform : d.compile = .ok form) (hc : c ∈ form.conditions)
    (hbody : UpdateRequest.read body = .ok u)
    (hkey : resolveKey u.apiKey p.configuredKey = .ok key) (hid : u.formId = some id)
    (hne : id ≠ "") (hkind : u.kind = .text "conditions")
    (hconditions : u.conditions = .list [.map c.toEntries]) (s : Session) :
    Condition.read (.map c.toEntries) = .ok c ∧
      ∃ payload ids text entries,
        (d.assemble form).run.run s.ids = (.ok payload, ids) ∧
        payload.properties.get? "conditions" = some (.list entries) ∧
        ((p.updateFromBody body).exec s).2 = ({ s with ids }.opened key).after [{
          method := .post
          url := trimSlashes p.apiUrl ++ ("/form/" ++ id ++ "/properties")
          apiKey := key
          timeout := p.timeout
          body := .form [("properties[conditions]", text)] }] ∧
        Json.read text = .ok (.list entries) := by
  have hderive : form.conditions = Condition.derive d.visibility form.questions := by
    obtain ⟨-, -, rfl⟩ := Document.compile_eq_ok_iff.mp hform
    rfl
  have hmem : c ∈ Condition.derive d.visibility form.questions := hderive ▸ hc
  have hread : Condition.read (.map c.toEntries) = .ok c :=
    Condition.read_toEntries (Condition.isNormal_of_mem_derive hmem)
  refine ⟨hread, ?_⟩
  obtain ⟨hjson, hplain⟩ := Condition.isJson_and_isPlain_of_mem_derive hmem
  obtain ⟨halone, hown⟩ := Condition.derive_eq_of_mem hmem
  -- Both ways encode this condition alone, with the identifiers of the session.
  obtain ⟨es, ids, hrun, hes⟩ := gives_encodeFrom (List.forall_mem_singleton.mpr hjson) 0 s.ids
  obtain ⟨e, new, rfl, he⟩ := exists_eq_singleton_of_areEncodedAs hown hes
  obtain ⟨text, htext⟩ := Json.exists_write_eq_ok .compact
    (isJson_list_of_areEncodedAs hes (List.forall_mem_singleton.mpr hjson))
  have hassemble : (d.assemble form).run.run s.ids = _ :=
    d.run_assemble_of_run (by rw [hderive, halone]; exact hrun)
  have htextOf : Json.IsTextOf text (.list [e.toValue]) :=
    isTextOf_of_areEncodedAs hes (List.forall_mem_singleton.mpr hjson)
      (List.forall_mem_singleton.mpr hplain) htext
  have hproperties := get?_withConditions (List.cons_ne_nil e []) d.formProperties
  refine ⟨_, ids, text, [e.toValue], hassemble, hproperties, ?_, ?_⟩
  · have hlist : [Value.map c.toEntries].mapM Condition.read = .ok [c] := by
      rw [List.mapM_cons, hread]
      rfl
    have hchecked : p.checked u = .ok (key, id, .conditions) :=
      checked_eq_ok_iff.mpr ⟨hkey, hid, hne, by rw [hkind]; rfl⟩
    have hcs : u.readConditions = .ok (some [c]) :=
      UpdateRequest.readConditions_of_list hconditions hlist
    have hopened : (encodeConditions [c]).run.run (s.opened key).ids = (.ok [e], ids) := hrun
    rw [exec_updateFromBody_of_read hbody, exec_updateForm hchecked, handle,
      exec_updateConditions_of_run hcs hopened htext]
    rfl
  · exact htextOf Json.depthLimit (by rw [nesting_list_toValue he]; decide)

/-- A document with one eligibility question and one legal text. -/
theorem updateFromBody_derived_of_one_question :
    let p : Publisher := {}
    let d : Document :=
      { eligibilityQuestions := [{ text := .text "Adult?", name := .text "isAdult" }]
        legalTexts := [{ content := .text "Terms" }]
        visibility := { enabled := true, onlyIfEligible := true } }
    let c : Condition := {
      terms := [{ field := "2", operator := .text "equals", value := "Yes" }]
      actions := [{ field := "3", visibility := .text "Show" }] }
    let condition : Value := .object [("link", .text "All"),
      ("terms", .list [.object [("field", .text "2"), ("operator", .text "equals"),
        ("value", .text "Yes")]]),
      ("actions", .list [.object [("field", .text "3"), ("visibility", .text "Show")]])]
    let body : Value := .object [("apiKey", .text "k"), ("formId", .text "7"),
      ("updateType", .text "conditions"), ("conditions", .list [condition])]
    ∃ form, d.compile = .ok form ∧ c ∈ form.conditions ∧ Condition.read condition = .ok c ∧
      ∃ payload ids text entries,
        (d.assemble form).run.run .counting = (.ok payload, ids) ∧
        payload.properties.get? "conditions" = some (.list entries) ∧
        ((p.updateFromBody body).exec {}).2 = (Session.opened { ids } (.text "k")).after [{
          method := .post
          url := "https://api.jotform.com/form/7/properties"
          apiKey := .text "k"
          timeout := .int 30
          body := .form [("properties[conditions]", text)] }] ∧
        Json.read text = .ok (.list entries) := by
  intro p d c condition body
  have hform : d.compile = .ok d.compiledForm := rfl
  have hc : c ∈ d.compiledForm.conditions := by
    rw [Document.compiledForm, d.laidOut_laidOutQuestions.derive_eq, if_pos (by decide)]
    show c ∈ [{ terms := [Term.affirmed 2], actions := [Action.reveal 3] }]
    have htwo : toString (2 : Int) = "2" := by decide
    have hthree : toString (3 : Int) = "3" := by decide
    rw [Term.affirmed, Action.reveal, htwo, hthree]
    exact List.mem_singleton.mpr rfl
  have hurl : trimSlashes p.apiUrl ++ ("/form/" ++ "7" ++ "/properties") =
      "https://api.jotform.com/form/7/properties" := by decide
  rw [← hurl]
  exact ⟨d.compiledForm, hform, hc,
    p.updateFromBody_derived hform hc rfl rfl rfl (by decide) rfl rfl {}⟩

end Publisher

end FormPublisher
