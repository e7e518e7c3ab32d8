import FormPublisher.Proofs.Form.Identifiers
import FormPublisher.Proofs.Form.References
import FormPublisher.Proofs.Value.Mapping

/-!
# The properties of a form

The properties of a form come from three places: a title and a style that every form has, the
properties of the document, and the conditions of the form (`Document.assemble_properties`).  The
document has the last word on each key, whatever the value under it, except that conditions of the
form replace what the document says of conditions.  A key keeps the place where it came up first.
-/

namespace FormPublisher

open Entries

namespace Document

/-- The keys that the properties of every form have. -/
def standardKeys : List Scalar := .text "title" :: defaultStyle.map fun p => .text p.1

/-- The title of a form, or a value of the style, for which the document says nothing else. -/
def standardProperty? (d : Document) (key : Scalar) : Option Value :=
  if key = .text "title" then some ((d.title.filter Value.isTruthy).getD (.text "New Form"))
  else (defaultStyle.find? fun p => .text p.1 == key).map fun p => .text p.2

/-- The keys of the properties of a form: those that every form has, the others of the document in
its order, and at the end the one for conditions, if it is needed and not there. -/
def propertyKeys (d : Document) (conditions : List Condition) : List Scalar :=
  let keys := standardKeys ++ d.properties.keys.filter fun k => k ∉ standardKeys
  if conditions ≠ [] ∧ .text "conditions" ∉ keys then keys ++ [.text "conditions"] else keys

/-- The properties that every form has. -/
def standardProperties (d : Document) : Entries :=
  (.text "title", (d.title.filter Value.isTruthy).getD (.text "New Form")) ::
    defaultStyle.map fun p => (.text p.1, .text p.2)

variable {d : Document}

theorem keys_standardProperties (d : Document) : d.standardProperties.keys = standardKeys := by
  rw [standardProperties, standardKeys, keys, List.map_cons, List.map_map]
  rfl

theorem hasTextKeys_standardProperties (d : Document) : d.standardProperties.HasTextKeys := by
  intro k hk
  rw [keys_standardProperties, standardKeys] at hk
  rcases List.mem_cons.mp hk with rfl | hk
  · exact ⟨_, rfl⟩
  · obtain ⟨p, -, rfl⟩ := List.mem_map.mp hk
    exact ⟨_, rfl⟩

theorem hasDistinctKeys_standardProperties (d : Document) :
    d.standardProperties.HasDistinctKeys := by
  rw [HasDistinctKeys, keys_standardProperties]
  decide

theorem find?_standardProperties (d : Document) (key : Scalar) :
    d.standardProperties.find? key = d.standardProperty? key := by
  have hfinds : (fun e : Scalar × Value => e.1.finds key) ∘
      (fun p : String × String => (.text p.1, .text p.2)) = fun p => Scalar.text p.1 == key := by
    funext p
    exact Scalar.text_finds p.1 key
  have hstyle : find? key (defaultStyle.map fun p => (.text p.1, .text p.2)) =
      (defaultStyle.find? fun p => .text p.1 == key).map fun p => .text p.2 := by
    rw [find?, List.find?_map, hfinds, Option.map_map]
    rfl
  rw [standardProperties, find?_cons, hstyle, standardProperty?, Scalar.text_finds]
  simp only [beq_iff_eq, eq_comm (a := key)]

/-- The properties before any condition: what the document says is laid over what every form has. -/
theorem formProperties_eq (d : Document) :
    d.formProperties = update d.standardProperties d.properties := rfl

theorem keys_formProperties (hd : d.properties.HasDistinctKeys) :
    d.formProperties.keys =
      standardKeys ++ d.properties.keys.filter fun k => k ∉ standardKeys := by
  have hhas : ∀ k, (!has k d.standardProperties) = decide (k ∉ standardKeys) := fun k => by
    rw [Bool.eq_iff_iff, Bool.not_eq_true', Bool.eq_false_iff, ne_eq,
      d.hasTextKeys_standardProperties.has_iff, keys_standardProperties, decide_eq_true_iff]
  rw [formProperties_eq, keys_update _ hd, keys_standardProperties]
  simp only [hhas]

theorem find?_formProperties (hd : d.properties.HasDistinctKeys) (key : Scalar) :
    d.formProperties.find? key = (d.properties.find? key).or (d.standardProperty? key) := by
  rw [formProperties_eq, find?_update d.hasTextKeys_standardProperties hd, find?_standardProperties]

end Document

/-! ### Conditions -/

theorem keys_withConditions (properties : Entries) (es : List EncodedCondition) :
    (withConditions properties es).keys =
      if es ≠ [] ∧ .text "conditions" ∉ properties.keys then
        properties.keys ++ [.text "conditions"]
      else properties.keys := by
  by_cases hes : es = []
  · rw [hes, if_neg fun h => h.1 rfl]
    rfl
  · rw [withConditions_of_ne_nil hes, keys_put]
    by_cases hkey : .text "conditions" ∈ properties.keys
    · rw [if_pos (has_text_iff.mpr hkey), if_neg fun h => h.2 hkey]
    · rw [if_neg fun h => hkey (has_text_iff.mp h), if_pos ⟨hes, hkey⟩]

theorem find?_withConditions (properties : Entries) (es : List EncodedCondition) (key : Scalar) :
    (withConditions properties es).find? key =
      if es ≠ [] ∧ key = .text "conditions" then some (.list (es.map EncodedCondition.toValue))
      else properties.find? key := by
  by_cases hes : es = []
  · rw [hes, if_neg fun h => h.1 rfl]
    rfl
  · rw [withConditions_of_ne_nil hes, find?_put_text]
    simp only [ne_eq, hes, not_false_eq_true, true_and]

theorem hasDistinctKeys_withConditions {properties : Entries} (h : properties.HasDistinctKeys)
    (es : List EncodedCondition) : (withConditions properties es).HasDistinctKeys := by
  unfold withConditions
  split
  · exact h
  · exact h.put _ _

/-- Conditions and what they are encoded as are missing together. -/
theorem ne_nil_iff_of_run {cs : List Condition} {es : List EncodedCondition} {ids ids' : IdSupply}
    (h : (encodeConditions cs).run.run ids = (.ok es, ids')) : es ≠ [] ↔ cs ≠ [] := by
  obtain ⟨-, ns, hencoded, -⟩ := areEncodedWith_of_run h
  rw [← List.length_pos_iff, ← List.length_pos_iff, hencoded.length_eq]

/-! ### Payloads -/

/-- In the payload for a document and any form, each key of the properties has one value:
`conditions` has the conditions of the form, if it has any; otherwise the document says what the
value is, and only where it says nothing there are the title and the style that every form has.  The
keys that every form has come first, then the others of the document in its order, and `conditions`
last if it is needed and not yet there. -/
theorem Document.assemble_properties {d : Document} (hd : d.properties.HasDistinctKeys)
    (form : CompiledForm) (ids : IdSupply) :
    (∀ m ids', (encodeConditions form.conditions).run.run ids = (.error m, ids') →
      (d.assemble form).run.run ids = (.error m, ids')) ∧
    ∀ es ids', (encodeConditions form.conditions).run.run ids = (.ok es, ids') →
      ∃ payload, (d.assemble form).run.run ids = (.ok payload, ids') ∧
        payload.properties.HasDistinctKeys ∧
        (∀ key, payload.properties.find? key =
          if form.conditions ≠ [] ∧ key = .text "conditions" then
            some (.list (es.map EncodedCondition.toValue))
          else (d.properties.find? key).or (d.standardProperty? key)) ∧
        payload.properties.keys = d.propertyKeys form.conditions := by
  refine ⟨fun m ids' hrun => Drawing.run_bind_of_error hrun _, fun es ids' hrun => ?_⟩
  have hes := ne_nil_iff_of_run hrun
  refine ⟨_, d.run_assemble_of_run hrun, ?_, fun key => ?_, ?_⟩
  · exact hasDistinctKeys_withConditions
      (d.hasDistinctKeys_standardProperties.update d.properties) es
  · simp only [find?_withConditions, find?_formProperties hd, hes]
  · simp only [keys_withConditions, keys_formProperties hd, hes, propertyKeys]

/-- A document with its own font, its own title, a key that is no text, and its own conditions. -/
theorem Document.assemble_properties_of_own_conditions :
    let d : Document :=
      { title := some (.text "Intake")
        properties := [(.text "font", .text "Roboto"), (.int 1, .list []),
          (.text "conditions", .text "none"), (.text "title", .object [("en", .text "Own")])] }
    let form : CompiledForm :=
      { questions := [], conditions := [{ terms := [], actions := [], id := some (.text "mine") }] }
    d.properties.HasDistinctKeys ∧ ∃ payload ids' entry,
      (d.assemble form).run.run .counting = (.ok payload, ids') ∧
      payload.properties.keys = standardKeys ++ [.int 1, .text "conditions"] ∧
      payload.properties.find? (.text "conditions") = some (.list [entry]) ∧
      payload.properties.find? (.text "title") = some (.object [("en", .text "Own")]) ∧
      payload.properties.find? (.text "font") = some (.text "Roboto") ∧
      payload.properties.find? (.text "fontsize") = some (.text "14") ∧
      payload.properties.find? (.bool true) = some (.list []) := by
  intro d form
  have hd : d.properties.HasDistinctKeys := by
    show List.Pairwise _ [Scalar.text "font", .int 1, .text "conditions", .text "title"]
    decide
  obtain ⟨e, hrun⟩ : ∃ e, (encodeConditions form.conditions).run.run .counting =
      (.ok [e], .counting) := ⟨_, rfl⟩
  obtain ⟨payload, hassemble, -, hfind, hkeys⟩ := (assemble_properties hd form _).2 _ _ hrun
  refine ⟨hd, payload, _, e.toValue, hassemble, ?_⟩
  rw [hkeys, hfind, hfind, hfind, hfind, hfind]
  exact ⟨rfl, rfl, rfl, rfl, rfl, rfl⟩

end FormPublisher
