import FormPublisher.Proofs.Form.References
import FormPublisher.Proofs.Value.Mapping

/-!
# Questions as objects

In the payload of a document every question is an object that begins with its type, its text, its
order and its name, and goes on with its attributes (`Document.assemble_questions`).  An attribute
could take the place of one of the first four values.  It never does: the names of all entries
differ (`Document.nodup_names_of_mem_laidOutQuestions`), so writing the attributes over the others
only adds them (`Question.toEntries_eq`).
-/

namespace FormPublisher

/-! ### One question -/

namespace Question

/-- The object for the question at an index of a form: its kind, its text, the number after the
index, its name, and behind them its attributes as they are. -/
structure IsSentAs (q : Question) (index : Nat) (es : Entries) : Prop where
  /-- The entries that every question has come first. -/
  entries : es = [(.text "type", .text q.kind), (.text "text", q.text),
    (.text "order", .text (toString (index + 1))), (.text "name", q.name)] ++
      q.attributes.map fun a => (.text a.1, a.2)
  /-- No attribute takes the place of one of them. -/
  apart : ∀ a ∈ q.attributes, a.1 ∉ ["type", "text", "order", "name"]
  /-- No name comes up twice. -/
  distinct : es.keys.Nodup
  /-- The section is not told. -/
  noSection : .text "section" ∉ es.keys

theorem keys_baseEntries_append (q : Question) :
    Entries.keys (q.baseEntries ++ q.attributeEntries) = q.names.map .text := by
  have hattributes : Entries.keys q.attributeEntries = (q.attributes.map Prod.fst).map .text := by
    unfold attributeEntries Entries.keys
    rw [List.map_map, List.map_map]
    rfl
  rw [Entries.keys_append, hattributes, names, List.map_append]
  rfl

/-- Attributes under names of their own are put behind the entries that every question has. -/
theorem toEntries_eq {q : Question} (h : q.names.Nodup) :
    q.toEntries = q.baseEntries ++ q.attributeEntries :=
  Entries.update_of_hasDistinctKeys_append
    (Entries.hasDistinctKeys_of_nodup q.keys_baseEntries_append h)

/-- A question with its number is sent as its object if all names differ. -/
theorem isSentAs_toEntries {q : Question} {index : Nat} (hposition : q.position = index + 1)
    (h : ("section" :: q.names).Nodup) : q.IsSentAs index q.toEntries := by
  obtain ⟨hsection, hnames⟩ := List.nodup_cons.mp h
  have hinjective : Function.Injective Scalar.text := fun _ _ => Scalar.text.inj
  have hkeys : q.toEntries.keys = q.names.map .text := by
    rw [toEntries_eq hnames, keys_baseEntries_append]
  have horder : toString q.position = toString (index + 1) := by
    rw [hposition]
    rfl
  constructor
  · rw [toEntries_eq hnames, baseEntries, horder]
    rfl
  · exact not_mem_baseNames_of_nodup hnames
  · rw [hkeys]
    exact hnames.map hinjective
  · rw [hkeys, List.mem_map_of_injective hinjective]
    exact hsection

end Question

/-! ### All questions -/

/-- A document that compiles has a payload, and there the questions of the form stand one by one as
their objects. -/
theorem Document.assemble_questions {d : Document} {form : CompiledForm}
    (h : d.compile = .ok form) (ids : IdSupply) :
    ∃ payload ids', (d.assemble form).run.run ids = (.ok payload, ids') ∧
      payload.questions.length = form.questions.length ∧
      ∀ (i : Nat) (hi : i < form.questions.length) (hi' : i < payload.questions.length),
        form.questions[i].IsSentAs i payload.questions[i] := by
  obtain ⟨-, -, rfl⟩ := compile_eq_ok_iff.mp h
  have hconditions : ∀ c ∈ d.compiledForm.conditions, c.IsJson := fun c hc =>
    (Condition.isJson_and_isPlain_of_mem_derive hc).1
  obtain ⟨payload, ids', hrun, es, -, rfl⟩ :=
    gives_assemble (d := d) d.compiledForm hconditions ids
  refine ⟨_, ids', hrun, List.length_map _, ?_⟩
  intro i hi hi'
  have hposition := d.laidOut_laidOutQuestions.positions i hi
  have hnames := d.nodup_names_of_mem_laidOutQuestions (List.getElem_mem hi)
  rw [List.getElem_map]
  exact Question.isSentAs_toEntries hposition hnames

/-- A signature between other questions, with its number and its width. -/
theorem Document.assemble_questions_of_signature :
    let d : Document :=
      { hiddenFields := [{ name := .text "source", text := "web" }]
        signatures := [{ text := .text "Sign here", name := .int 7, required := true }]
        widgets := [{ type := .text "geoStamp", name := .text "place" }] }
    ∃ form payload ids', d.compile = .ok form ∧
      (d.assemble form).run.run .counting = (.ok payload, ids') ∧
      payload.questions.length = 6 ∧
      payload.questions[3]? = some [(.text "type", .text "control_signature"),
        (.text "text", .text "Sign here"), (.text "order", .text "4"), (.text "name", .int 7),
        (.text "required", .text "Yes"), (.text "size", .text "600"),
        (.text "labelAlign", .text "Auto"), (.text "validation", .text "None")] := by
  intro d
  have hcompile : d.compile = .ok d.compiledForm := rfl
  obtain ⟨payload, ids', hrun, hlength, hsent⟩ := assemble_questions hcompile .counting
  have hi : 3 < d.compiledForm.questions.length := by decide
  have hi' : 3 < payload.questions.length := hlength ▸ hi
  refine ⟨_, payload, ids', hcompile, hrun, hlength, ?_⟩
  rw [List.getElem?_eq_getElem hi', (hsent 3 hi hi').entries]
  rfl

end FormPublisher
