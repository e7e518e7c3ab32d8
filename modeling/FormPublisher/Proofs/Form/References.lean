import FormPublisher.Form.Payload
import FormPublisher.Proofs.Form.Derivation
import FormPublisher.Proofs.Form.Encoding
import FormPublisher.Proofs.Form.Gating

/-!
# What the conditions of a payload refer to

In the payload of a form, questions are found by their orders, which are texts, and a condition
names them inside two JSON texts.  `Payload.IsLinked` says that both sides fit: all orders differ,
every name in a condition is the order of exactly one question, and the questions found are the
eligibility questions on one side, and the first legal text and the personal questions on the other,
each of them once.  `gives_assemble` proves this of every document that compiles.

The orders are those of the questions because no attribute of a question takes their place
(`attributes_of_mem_laidOutQuestions`), and the conditions are those of the form whatever the
document says of conditions among its properties.
-/

namespace FormPublisher

/-! ### Attributes that leave the other entries alone -/

namespace Question

/-- The names of the entries that every question has. -/
def baseNames : List String := ["type", "text", "order", "name"]

/-- Attributes under other names leave an entry as it is. -/
theorem get?_toEntries {q : Question} {key : String} (h : ∀ a ∈ q.attributes, a.1 ≠ key) :
    q.toEntries.get? key = q.baseEntries.get? key := by
  unfold toEntries attributeEntries Entries.update
  generalize q.baseEntries = es
  generalize q.attributes = as at h
  induction as generalizing es with
  | nil => rfl
  | cons a as ih =>
    obtain ⟨ha, has⟩ := List.forall_mem_cons.mp h
    rw [List.map_cons, List.foldl_cons, ih _ has, Entries.get?_put, if_neg (Ne.symm ha)]

end Question

/-- The names of the entries of a question: those that every question has, and those of its
attributes. -/
def Question.names (q : Question) : List String := baseNames ++ q.attributes.map Prod.fst

/-- Among names that differ, those of the attributes are none of the others. -/
theorem Question.not_mem_baseNames_of_nodup {q : Question} (h : q.names.Nodup) :
    ∀ a ∈ q.attributes, a.1 ∉ baseNames := by
  obtain ⟨-, -, hapart⟩ := List.nodup_append.mp h
  intro a ha hbase
  exact hapart a.1 hbase a.1 (List.mem_map_of_mem ha) rfl

/-- The names of the entries of a question that a document asks for differ from each other and from
the name of the section. -/
theorem Document.nodup_names_of_mem_laidOutQuestions (d : Document) {q : Question}
    (hq : q ∈ d.laidOutQuestions) : ("section" :: q.names).Nodup := by
  obtain ⟨i, hi, rfl⟩ := List.mem_mapIdx.mp hq
  -- Numbering does not change attributes, so each section can be looked at by itself.
  obtain ⟨p, -, hp⟩ := List.mem_flatMap.mp (List.getElem_mem hi)
  show ("section" :: Question.names (Section.all.flatMap d.sectionQuestions)[i]).Nodup
  generalize (Section.all.flatMap d.sectionQuestions)[i] = q at hp
  -- The attributes of a kind of question have fixed names, whatever their values.
  cases p with
  | hidden | eligibility | signature | firstLegal =>
    obtain ⟨_, _, rfl⟩ := List.mem_map.mp hp
    simp [HiddenField.question, EligibilityQuestion.question, Signature.question,
      LegalText.question, textAttributes, Question.names, Question.baseNames]
  | personal =>
    obtain ⟨f, _, rfl⟩ := List.mem_map.mp hp
    cases f <;>
      simp [PersonalField.question, PersonalField.attributes, textAttributes, Question.names,
        Question.baseNames]
  | header | pageBreak | submit =>
    rw [List.mem_singleton.mp hp]
    simp [headerQuestion, pageBreakQuestion, submitQuestion, Question.names, Question.baseNames]
  | legal =>
    obtain ⟨_, _, rfl⟩ := List.mem_mapIdx.mp hp
    simp [LegalText.question, Question.names, Question.baseNames]
  | captcha =>
    simp only [sectionQuestions] at hp
    split at hp
    · rw [List.mem_singleton.mp hp]
      simp [captchaQuestion, textAttributes, Question.names, Question.baseNames]
    · cases hp
  | widget =>
    obtain ⟨w, _, hw⟩ := List.mem_filterMap.mp hp
    obtain ⟨_, _, rfl⟩ := Option.map_eq_some_iff.mp hw
    simp [Widget.question, textAttributes, Question.names, Question.baseNames]
  | other _ => cases hp

/-- No attribute of a question that a document asks for has the name of an entry that every question
has. -/
theorem Document.attributes_of_mem_laidOutQuestions (d : Document) {q : Question}
    (hq : q ∈ d.laidOutQuestions) : ∀ a ∈ q.attributes, a.1 ∉ Question.baseNames := by
  have hnames : q.names.Nodup := (d.nodup_names_of_mem_laidOutQuestions hq).of_cons
  exact Question.not_mem_baseNames_of_nodup hnames

/-- The form that a document compiles to, if it compiles. -/
def Document.compiledForm (d : Document) : CompiledForm where
  questions := d.laidOutQuestions
  conditions := Condition.derive d.visibility d.laidOutQuestions

/-! ### References on the wire -/

/-- The value under a key of an object. -/
def Value.at? (v : Value) (key : String) : Option Value := v.entries?.bind (Entries.get? key)

/-- A JSON text of objects that name fields, in this order. -/
def NamesFields (text : String) (fields : List String) : Prop :=
  ∃ vs, Json.IsTextOf text (.list vs) ∧
    vs.map (Value.at? · "field") = fields.map fun f => some (.text f)

namespace Payload

/-- The order of the question at an index as it is sent. -/
def order? (payload : Payload) (i : Nat) : Option Value :=
  payload.questions[i]?.bind (Entries.get? "order")

/-- Names resolve to the wanted questions of a form: each is the order of exactly one question that
is sent, the questions found are the wanted ones, and none is named twice. -/
structure Resolves (payload : Payload) (form : CompiledForm) (names : List String)
    (wanted : Question → Prop) : Prop where
  unique : ∀ name ∈ names, ∃! i, payload.order? i = some (.text name)
  wanted_iff : ∀ (i : Nat) (hi : i < form.questions.length),
    (∃ name ∈ names, payload.order? i = some (.text name)) ↔ wanted form.questions[i]
  once : names.Nodup

/-- The object that is sent for a condition names questions that are sent: its terms name the
eligibility questions, and its actions the first legal text and the personal questions. -/
def ResolvesEntry (payload : Payload) (form : CompiledForm) (entry : Value) : Prop :=
  ∃ termsText actionText tested shown,
    entry.at? "terms" = some (.text termsText) ∧ NamesFields termsText tested ∧
    payload.Resolves form tested (fun q => q.part = .eligibility) ∧
    entry.at? "action" = some (.text actionText) ∧ NamesFields actionText shown ∧
    payload.Resolves form shown fun q => q.part = .firstLegal ∨ q.part = .personal

/-- A payload whose questions and conditions fit together. -/
structure IsLinked (payload : Payload) (d : Document) (form : CompiledForm) : Prop where
  laidOut : d.LaidOut form.questions
  questions : payload.questions = form.questions.map Question.toEntries
  order_text : ∀ i < payload.questions.length, ∃ o : String, payload.order? i = some (.text o)
  order_injective : ∀ i < payload.questions.length, ∀ j < payload.questions.length,
    payload.order? i = payload.order? j → i = j
  radio : ∀ q ∈ form.questions, q.part = .eligibility →
    q.toEntries.get? "type" = some (.text "control_radio")
  conditions : form.conditions ≠ [] → ∃ entries, entries ≠ [] ∧
    payload.properties.get? "conditions" = some (.list entries) ∧
    ∀ entry ∈ entries, payload.ResolvesEntry form entry

variable {d : Document} {payload : Payload}

/-- The orders of the questions of a document are their positions in decimal. -/
theorem order?_eq_some_iff (h : payload.questions = d.laidOutQuestions.map Question.toEntries)
    {i : Nat} {v : Value} :
    payload.order? i = some v ↔
      ∃ hi : i < d.laidOutQuestions.length, v = .text (toString d.laidOutQuestions[i].position) := by
  unfold order?
  rw [h, List.getElem?_map]
  by_cases hi : i < d.laidOutQuestions.length
  · have hq := d.attributes_of_mem_laidOutQuestions (List.getElem_mem hi)
    have horder : (d.laidOutQuestions[i]).toEntries.get? "order" =
        some (.text (toString d.laidOutQuestions[i].position)) := by
      rw [Question.get?_toEntries fun a ha hname => hq a ha (hname ▸ by decide)]
      rfl
    rw [List.getElem?_eq_getElem hi, Option.map_some, Option.bind_some, horder]
    simp [hi, eq_comm]
  · rw [List.getElem?_eq_none (Nat.le_of_not_lt hi)]
    simp [hi]

/-- Two integers are written alike only if they are the same. -/
theorem text_toString_inj {m n : Int} (h : Value.text (toString m) = .text (toString n)) :
    m = n :=
  Int.repr_injective (Scalar.text.inj (Value.scalar.inj h))

/-- Two questions of a document have the same order only at the same place. -/
theorem index_eq_of_order_eq {i j : Nat} (hi : i < d.laidOutQuestions.length)
    (hj : j < d.laidOutQuestions.length)
    (h : Value.text (toString d.laidOutQuestions[i].position) =
      .text (toString d.laidOutQuestions[j].position)) : i = j := by
  have hposition := text_toString_inj h
  have hpositions := d.laidOut_laidOutQuestions.positions
  rw [hpositions i hi, hpositions j hj] at hposition
  omega

/-- The positions of wanted questions, written in decimal, resolve to these questions. -/
theorem resolves_of_positions (h : payload.questions = d.laidOutQuestions.map Question.toEntries)
    {ns : List Int} (hns : ns.Nodup) {wanted : Question → Prop}
    (hwanted : ∀ q ∈ d.laidOutQuestions, q.position ∈ ns ↔ wanted q)
    (hfound : ∀ n ∈ ns, ∃ q ∈ d.laidOutQuestions, q.position = n) :
    payload.Resolves d.compiledForm (ns.map fun n : Int => toString n) wanted where
  unique name hname := by
    obtain ⟨n, hn, rfl⟩ := List.mem_map.mp hname
    obtain ⟨q, hq, rfl⟩ := hfound n hn
    obtain ⟨i, hi, rfl⟩ := List.getElem_of_mem hq
    refine ⟨i, (order?_eq_some_iff h).mpr ⟨hi, rfl⟩, fun j hj => ?_⟩
    obtain ⟨hj, horder⟩ := (order?_eq_some_iff h).mp hj
    exact (index_eq_of_order_eq hi hj horder).symm
  wanted_iff i hi := by
    rw [← hwanted _ (List.getElem_mem hi)]
    constructor
    · rintro ⟨name, hname, horder⟩
      obtain ⟨n, hn, rfl⟩ := List.mem_map.mp hname
      obtain ⟨_, heq⟩ := (order?_eq_some_iff h).mp horder
      exact text_toString_inj heq ▸ hn
    · intro hi'
      exact ⟨_, List.mem_map_of_mem hi', (order?_eq_some_iff h).mpr ⟨hi, rfl⟩⟩
  once := hns.map fun _ _ hmn => Int.repr_injective hmn

end Payload

/-! ### The condition of a document -/

/-- What is sent one by one for things that name fields names the same fields. -/
theorem map_at?_field {α : Type} {R : α → Value → Prop} {field : α → String}
    (hR : ∀ a v, R a v → v.at? "field" = some (.text (field a))) {xs : List α} {vs : List Value}
    (h : List.Forall₂ R xs vs) :
    vs.map (Value.at? · "field") = (xs.map field).map fun f => some (.text f) := by
  induction h with
  | nil => rfl
  | cons hx _ ih => rw [List.map_cons, List.map_cons, List.map_cons, hR _ _ hx, ih]

/-- What is sent for a condition names its fields. -/
theorem Condition.IsSentAs.namesFields {c : Condition} {index : Nat} {v : Value}
    (h : c.IsSentAs index v) : ∃ termsText actionText,
      v.at? "terms" = some (.text termsText) ∧ NamesFields termsText (c.terms.map Term.field) ∧
      v.at? "action" = some (.text actionText) ∧
      NamesFields actionText (c.actions.map Action.field) := by
  obtain ⟨id, termsText, actionText, terms, actions, rfl, -, htermsText, hterms, hactionText,
    hactions⟩ := h
  refine ⟨termsText, actionText, rfl, ⟨terms, htermsText, map_at?_field ?_ hterms⟩, rfl,
    ⟨actions, hactionText, map_at?_field ?_ hactions⟩⟩
  · rintro t _ ⟨id, rfl⟩
    rfl
  · rintro a _ ⟨id, rfl⟩
    rfl

/-- A condition that is derived holds texts only. -/
theorem Condition.isJson_and_isPlain_of_mem_derive {visibility : Visibility} {qs : List Question}
    {c : Condition} (h : c ∈ Condition.derive visibility qs) : c.IsJson ∧ c.IsPlain := by
  obtain ⟨-, rfl⟩ := mem_derive_iff.mp h
  have hoperator : ∀ t ∈ (Question.positionsOf .eligibility qs).map Term.affirmed,
      t.operator = .text "equals" := List.forall_mem_map.mpr fun _ _ => rfl
  have hvisibility : ∀ a ∈ (gatedPositions qs).map Action.reveal, a.visibility = .text "Show" :=
    List.forall_mem_map.mpr fun _ _ => rfl
  exact ⟨⟨fun t ht => hoperator t ht ▸ rfl, fun a ha => hvisibility a ha ▸ rfl, nofun⟩,
    ⟨fun t ht => hoperator t ht ▸ rfl, fun a ha => hvisibility a ha ▸ rfl, nofun⟩⟩

theorem withConditions_of_ne_nil {es : List EncodedCondition} (h : es ≠ [])
    (properties : Entries) :
    withConditions properties es = Entries.put (.text "conditions")
      (.list (es.map EncodedCondition.toValue)) properties :=
  if_neg (by simpa using h)

/-- The conditions of a form go over those that a document may have as a property. -/
theorem get?_withConditions {es : List EncodedCondition} (h : es ≠ []) (properties : Entries) :
    (withConditions properties es).get? "conditions" =
      some (.list (es.map EncodedCondition.toValue)) := by
  rw [withConditions_of_ne_nil h, Entries.get?_put, if_pos rfl]

namespace Document

variable {d : Document}

/-- The payload of a form whose conditions are encoded. -/
theorem run_assemble_of_run (d : Document) {form : CompiledForm}
    {es : List EncodedCondition} {ids ids' : IdSupply}
    (h : (encodeConditions form.conditions).run.run ids = (.ok es, ids')) :
    (d.assemble form).run.run ids = (.ok {
      properties := withConditions d.formProperties es
      questions := form.questions.map Question.toEntries
      emails := d.emails }, ids') := by
  rw [assemble, Drawing.run_bind_of_ok h]
  rfl

/-- A form with conditions of JSON values is put into a payload. -/
theorem gives_assemble (form : CompiledForm) (h : ∀ c ∈ form.conditions, c.IsJson) :
    (d.assemble form).Gives fun payload => ∃ es, AreEncodedAs 0 form.conditions es ∧
      payload = {
        properties := withConditions d.formProperties es
        questions := form.questions.map Question.toEntries
        emails := d.emails } :=
  (gives_encodeFrom h 0).bind fun es hes => Drawing.gives_pure ⟨es, hes, rfl⟩

/-- The questions of a section are found by the positions of this section. -/
theorem exists_position_eq {p : Section} {qs : List Question} {n : Int}
    (hn : n ∈ Question.positionsOf p qs) : ∃ q ∈ qs, q.position = n := by
  obtain ⟨q, hq, rfl⟩ := List.mem_map.mp hn
  exact ⟨q, (List.mem_filter.mp hq).1, rfl⟩

theorem nodup_map_range (k n : Nat) :
    ((List.range n).map fun i => ((k + i + 1 : Nat) : Int)).Nodup :=
  List.nodup_range.map fun i j h => by omega

/-- The terms of a condition resolve to the eligibility questions. -/
theorem resolves_tested {payload : Payload}
    (h : payload.questions = d.laidOutQuestions.map Question.toEntries) :
    payload.Resolves d.compiledForm
      ((Question.positionsOf .eligibility d.laidOutQuestions).map fun n : Int => toString n)
      fun q => q.part = .eligibility := by
  have hlaid := d.laidOut_laidOutQuestions
  refine Payload.resolves_of_positions h ?_ ?_ fun n hn => exists_position_eq hn
  · rw [hlaid.positionsOf_eligibility]
    exact nodup_map_range _ _
  · exact fun q hq => hlaid.position_mem_positionsOf_iff hq _

/-- The actions of a condition resolve to the first legal text and the personal questions. -/
theorem resolves_shown {payload : Payload}
    (h : payload.questions = d.laidOutQuestions.map Question.toEntries) :
    payload.Resolves d.compiledForm
      ((Question.positionsOf .firstLegal d.laidOutQuestions ++
        Question.positionsOf .personal d.laidOutQuestions).map fun n : Int => toString n)
      fun q => q.part = .firstLegal ∨ q.part = .personal := by
  have hlaid := d.laidOut_laidOutQuestions
  refine Payload.resolves_of_positions h ?_ ?_ fun n hn => ?_
  · rw [hlaid.positionsOf_gated]
    exact nodup_map_range _ _
  · intro q hq
    rw [List.mem_append, hlaid.position_mem_positionsOf_iff hq,
      hlaid.position_mem_positionsOf_iff hq]
  · rcases List.mem_append.mp hn with hn | hn
    · exact exists_position_eq hn
    · exact exists_position_eq hn

/-- An eligibility question is sent as a radio button. -/
theorem get?_type_of_eligibility {q : Question} (hq : q ∈ d.laidOutQuestions)
    (hpart : q.part = .eligibility) : q.toEntries.get? "type" = some (.text "control_radio") := by
  have hbase := d.attributes_of_mem_laidOutQuestions hq
  have hsection : q ∈ Question.ofSection .eligibility d.laidOutQuestions :=
    List.mem_filter.mpr ⟨hq, by simpa using hpart⟩
  obtain ⟨e, -, hkind, -⟩ :=
    exists_of_mem_of_forall₂ d.laidOut_laidOutQuestions.eligibility hsection
  rw [Question.get?_toEntries fun a ha hname => hbase a ha (hname ▸ by decide), ← hkind]
  rfl

/-- What a condition of a document names. -/
theorem fields_of_mem_conditions {c : Condition} (hc : c ∈ d.compiledForm.conditions) :
    c.terms.map Term.field =
        (Question.positionsOf .eligibility d.laidOutQuestions).map (fun n : Int => toString n) ∧
      c.actions.map Action.field =
        (Question.positionsOf .firstLegal d.laidOutQuestions ++
          Question.positionsOf .personal d.laidOutQuestions).map fun n : Int => toString n := by
  rw [compiledForm, d.laidOut_laidOutQuestions.derive_eq] at hc
  split at hc
  · obtain rfl := List.mem_singleton.mp hc
    exact ⟨map_field_map_affirmed _, map_field_map_reveal _⟩
  · cases hc

section Linked

variable {es : List EncodedCondition} {payload : Payload}

/-- What a condition of a document is sent as names questions of the document. -/
theorem resolvesEntry_toValue
    (hquestions : payload.questions = d.laidOutQuestions.map Question.toEntries)
    (hes : AreEncodedAs 0 d.compiledForm.conditions es) {e : EncodedCondition} (he : e ∈ es) :
    payload.ResolvesEntry d.compiledForm e.toValue := by
  obtain ⟨⟨c, index⟩, hc, hencoded⟩ := exists_of_mem_of_forall₂ hes he
  have hc : c ∈ d.compiledForm.conditions := List.fst_mem_of_mem_zipIdx hc
  obtain ⟨hjson, hplain⟩ := Condition.isJson_and_isPlain_of_mem_derive hc
  obtain ⟨termsText, actionText, hterms, htermsText, haction, hactionText⟩ :=
    (Condition.isSentAs_toValue hjson hplain hencoded).namesFields
  obtain ⟨htested, hshown⟩ := fields_of_mem_conditions hc
  refine ⟨termsText, actionText, _, _, hterms, htermsText, ?_, haction, hactionText, ?_⟩
  · rw [htested]
    exact resolves_tested hquestions
  · rw [hshown]
    exact resolves_shown hquestions

theorem isLinked_of_areEncodedAs
    (hquestions : payload.questions = d.laidOutQuestions.map Question.toEntries)
    (hproperties : payload.properties = withConditions d.formProperties es)
    (hes : AreEncodedAs 0 d.compiledForm.conditions es) : payload.IsLinked d d.compiledForm where
  laidOut := d.laidOut_laidOutQuestions
  questions := hquestions
  order_text i hi := by
    rw [hquestions, List.length_map] at hi
    exact ⟨_, (Payload.order?_eq_some_iff hquestions).mpr ⟨hi, rfl⟩⟩
  order_injective i hi j hj hij := by
    rw [hquestions, List.length_map] at hi hj
    rw [(Payload.order?_eq_some_iff hquestions).mpr ⟨hi, rfl⟩] at hij
    obtain ⟨_, horder⟩ := (Payload.order?_eq_some_iff hquestions).mp hij.symm
    exact Payload.index_eq_of_order_eq hi hj horder
  radio _ hq hpart := get?_type_of_eligibility hq hpart
  conditions hne := by
    have hsome : es ≠ [] := by
      rintro rfl
      exact hne (by simpa [AreEncodedAs] using hes)
    refine ⟨es.map EncodedCondition.toValue, by simpa using hsome, ?_, fun entry hentry => ?_⟩
    · rw [hproperties, get?_withConditions hsome]
    · obtain ⟨e, he, rfl⟩ := List.mem_map.mp hentry
      exact resolvesEntry_toValue hquestions hes he

end Linked

/-- The orders of the questions in a payload are different texts, and what its conditions name
resolves to the eligibility questions, and to the first legal text and the personal questions. -/
theorem assemble_isLinked {form : CompiledForm} (h : d.compile = .ok form) :
    (d.assemble form).Gives fun payload => payload.IsLinked d form := by
  obtain ⟨-, -, rfl⟩ := compile_eq_ok_iff.mp h
  refine (gives_assemble _ fun c hc => (Condition.isJson_and_isPlain_of_mem_derive hc).1).imp ?_
  rintro payload ⟨es, hes, rfl⟩
  exact isLinked_of_areEncodedAs rfl rfl hes

/-- A document that has conditions among its properties: the derived one goes over them. -/
theorem assemble_isLinked_of_own_conditions :
    let d : Document :=
      { properties := [(.text "conditions", .text "none")]
        hiddenFields := [{ name := .text "source", text := "web" }]
        eligibilityQuestions := [{ text := .text "Adult?", name := .text "isAdult" },
          { text := .text "Resident?", name := .text "isResident" }]
        legalTexts := [{ content := .text "Terms" }, { content := .text "Privacy" }]
        personalInfo := { includeEmail := true }
        visibility := { enabled := true, onlyIfEligible := true } }
    ∃ form, d.compile = .ok form ∧ form.conditions ≠ [] ∧
      (d.assemble form).Gives fun payload => payload.IsLinked d form := by
  intro d
  have hform : d.compile = .ok d.compiledForm :=
    compile_eq_ok_iff.mpr ⟨List.forall_mem_nil _, ⟨nofun, List.forall_mem_nil _⟩, rfl⟩
  have hne : d.compiledForm.conditions ≠ [] := by
    rw [compiledForm, d.laidOut_laidOutQuestions.derive_eq, if_pos (by decide)]
    exact List.cons_ne_nil _ _
  exact ⟨_, hform, hne, assemble_isLinked hform⟩

end Document

end FormPublisher
