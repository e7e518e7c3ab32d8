import FormPublisher.Proofs.Request.Shape

/-!
# Which conditions are accepted

Three parts of the object of a condition can be at fault, and `ConditionPart.inOrder` lists them in
the order in which they are checked.  A JSON value is read as a condition exactly if it is an object
in which all of them are as they should be (`Condition.decides_read`).

What is read is normal: fields are texts that are not empty, since no value but the empty text is
shown as nothing, and operators and visibilities are given.  So a condition that was read can be
written as an object and is read out of it again (`Condition.read_written`), and reading once is as
good as reading many times.
-/

namespace FormPublisher

variable {es data : Entries} {c : Condition}

/-! ### Terms and actions -/

/-- What is asked for and found is given. -/
theorem Entries.isGiven_of_require {key place : String} {v : Value}
    (h : es.require key place = .ok v) : v.IsGiven := by
  by_cases hgiven : (es.get key).IsGiven
  · rw [require_of_isGiven rfl hgiven] at h
    rwa [← Except.ok.inj h]
  · rw [require_of_not_isGiven hgiven] at h
    cases h

/-- The text of a value that is given is not empty. -/
theorem Value.IsGiven.text_ne_empty {v : Value} (h : v.IsGiven) (hv : v.isJson) {text : String}
    (htext : v.render = .ok text) : text ≠ "" := by
  obtain ⟨-, rfl⟩ := render_eq_ok_iff.mp htext
  intro hempty
  exact h.2 ((Value.display_eq_empty_iff hv).mp hempty)

theorem Value.isTruthy_of_present? {v w : Value} (h : v.present? = some w) : w.isTruthy := by
  unfold Value.present? at h
  split at h
  · rename_i htruthy
    rwa [← Option.some.inj h]
  · cases h

theorem Term.requires_read (hes : areJsonEntries es) :
    es.Requires "terms" ["field", "operator"] (Term.read es) := by
  have hvalueJson := Entries.isJson_getText hes "value"
  obtain ⟨value, hvalue⟩ := Value.exists_render_eq_ok hvalueJson
  rw [Term.read_eq]
  refine Entries.requires_cons fun field hfield => ?_
  have hfieldJson := Entries.isJson_of_require hes hfield
  obtain ⟨text, htext⟩ := Value.exists_render_eq_ok hfieldJson
  rw [htext, mapError_ok, ok_bind]
  refine Entries.requires_cons fun operator _ => decides_nil ?_
  rw [hvalue]
  exact ⟨_, rfl⟩

theorem Action.requires_read (hes : areJsonEntries es) :
    es.Requires "actions" ["field", "visibility"] (Action.read es) := by
  rw [Action.read_eq]
  refine Entries.requires_cons fun field hfield => ?_
  have hfieldJson := Entries.isJson_of_require hes hfield
  obtain ⟨text, htext⟩ := Value.exists_render_eq_ok hfieldJson
  rw [htext, mapError_ok, ok_bind]
  exact Entries.requires_cons fun visibility _ => decides_nil ⟨_, rfl⟩

theorem Term.isNormal_of_read (hes : areJsonEntries es) {t : Term} (h : Term.read es = .ok t) :
    t.IsNormal := by
  rw [Term.read_eq] at h
  obtain ⟨field, hfield, h⟩ := bind_eq_ok_iff.mp h
  obtain ⟨text, htext, h⟩ := bind_eq_ok_iff.mp h
  obtain ⟨operator, hoperator, h⟩ := bind_eq_ok_iff.mp h
  obtain ⟨value, -, h⟩ := bind_eq_ok_iff.mp h
  obtain rfl := Except.ok.inj h
  rw [mapError_eq_ok_iff] at hfield htext hoperator
  have hfieldJson := Entries.isJson_of_require hes hfield
  constructor
  · exact (Entries.isGiven_of_require hfield).text_ne_empty hfieldJson htext
  · exact Entries.isGiven_of_require hoperator

theorem Action.isNormal_of_read (hes : areJsonEntries es) {a : Action}
    (h : Action.read es = .ok a) : a.IsNormal := by
  rw [Action.read_eq] at h
  obtain ⟨field, hfield, h⟩ := bind_eq_ok_iff.mp h
  obtain ⟨text, htext, h⟩ := bind_eq_ok_iff.mp h
  obtain ⟨visibility, hvisibility, h⟩ := bind_eq_ok_iff.mp h
  obtain rfl := Except.ok.inj h
  rw [mapError_eq_ok_iff] at hfield htext hvisibility
  have hfieldJson := Entries.isJson_of_require hes hfield
  constructor
  · exact (Entries.isGiven_of_require hfield).text_ne_empty hfieldJson htext
  · exact Entries.isGiven_of_require hvisibility

/-! ### Checks -/

/-- The parts of a condition that are checked. -/
inductive ConditionPart where
  | link
  | terms
  | actions

namespace ConditionPart

/-- The parts in the order in which they are checked. -/
def inOrder : List ConditionPart := [link, terms, actions]

/-- What a part must be: one of the two links, or a list of objects with these keys unless it is
missing. -/
def Passes (data : Entries) : ConditionPart → Prop
  | link => data.get "link" = .text "All" ∨ data.get "link" = .text "Any"
  | terms => (Shape.objects ["field", "operator"]).Accepts (data.get "terms")
  | actions => (Shape.objects ["field", "visibility"]).Accepts (data.get "actions")

/-- Why a part is not what it must be. -/
def Fails (data : Entries) : ConditionPart → Rejection → Prop
  | link, cause => ¬ link.Passes data ∧ cause = .unknownLink
  | terms, cause =>
    (Shape.objects ["field", "operator"]).Rejects "terms" (data.get "terms") cause
  | actions, cause =>
    (Shape.objects ["field", "visibility"]).Rejects "actions" (data.get "actions") cause

theorem decides_link (data : Entries) :
    Decides ((Link.read (data.get "link")).mapError .rejected) (link.Passes data)
      (link.Fails data) := by
  by_cases hpasses : link.Passes data
  · have hread : ∃ l, (Link.read (data.get "link")).mapError Fault.rejected = .ok l := by
      rcases hpasses with h | h
      · exact ⟨.all, by rw [h]; rfl⟩
      · exact ⟨.any, by rw [h]; rfl⟩
    exact decides_of_ok hread hpasses fun _ hfails => hfails.1 hpasses
  · have hread : Link.read (data.get "link") = .error .unknownLink := by
      unfold Link.read
      split
      · rename_i h
        exact absurd (Or.inl h) hpasses
      · rename_i h
        exact absurd (Or.inr h) hpasses
      · rfl
    rw [hread]
    refine decides_of_error rfl hpasses fun cause => ⟨And.right, ?_⟩
    intro hcause
    exact ⟨hpasses, hcause⟩

end ConditionPart

namespace Condition

/-- An object is read part by part, up to the first part that is at fault. -/
theorem decides_ofEntries (hdata : areJsonEntries data) :
    DecidesAll (ofEntries data) (ConditionPart.Passes data) (ConditionPart.Fails data)
      ConditionPart.inOrder := by
  have hterms : Decides
      ((data.entriesAt "terms").mapError .rejected >>= fun ess => ess.mapM Term.read)
      (ConditionPart.terms.Passes data) (ConditionPart.terms.Fails data) :=
    Decides.objects (Entries.isJson_get hdata "terms") fun _ hes => Term.requires_read hes
  have hactions : Decides
      ((data.entriesAt "actions").mapError .rejected >>= fun ess => ess.mapM Action.read)
      (ConditionPart.actions.Passes data) (ConditionPart.actions.Fails data) :=
    Decides.objects (Entries.isJson_get hdata "actions") fun _ hes => Action.requires_read hes
  rw [ofEntries_eq]
  refine (ConditionPart.decides_link data).cons fun link _ => ?_
  -- To find the objects of a list and to read them is one check.
  rw [← bind_assoc]
  refine hterms.cons fun terms _ => ?_
  rw [← bind_assoc]
  exact hactions.cons fun actions _ => decides_nil ⟨_, rfl⟩

/-- A value that is a condition: an object whose parts are all as they must be. -/
def IsAcceptable (v : Value) : Prop :=
  ∃ data : Entries, v = .map data ∧ ∀ part ∈ ConditionPart.inOrder, part.Passes data

/-- Why a value is turned down: it is no object, or for its first part that is not as it must be. -/
inductive IsTurnedDown (v : Value) : Rejection → Prop
  | notObject (hmap : ∀ data, v ≠ .map data) : IsTurnedDown v .conditionNotObject
  | part {data : Entries} {cause : Rejection} (hmap : v = .map data)
      (hfirst : FirstFails (ConditionPart.Passes data) (ConditionPart.Fails data)
        ConditionPart.inOrder cause) : IsTurnedDown v cause

/-- A JSON value is read as a condition exactly if it is one, and otherwise it is turned down. -/
theorem decides_read {v : Value} (hv : v.isJson) :
    Decides (read v) (IsAcceptable v) (IsTurnedDown v) := by
  by_cases hmap : ∃ data, v = .map data
  · obtain ⟨data, rfl⟩ := hmap
    refine (decides_ofEntries hv).congr ?_ fun cause => ?_
    · constructor
      · intro hpasses
        exact ⟨data, rfl, hpasses⟩
      · rintro ⟨data', h, hpasses⟩
        rwa [Value.map.inj h]
    · constructor
      · exact .part rfl
      · intro h
        cases h with
        | notObject hno => exact absurd rfl (hno data)
        | part h hfirst => rwa [Value.map.inj h]
  · have hno : ∀ data, v ≠ .map data := fun data h => hmap ⟨data, h⟩
    have hread : read v = .error (.rejected .conditionNotObject) := by
      unfold read
      rw [Value.opened_of_isJson hv]
      split
      · exact absurd rfl (hno _)
      · rfl
    refine decides_of_error hread ?_ fun cause => ⟨?_, ?_⟩
    · rintro ⟨data, h, -⟩
      exact hno data h
    · intro h
      cases h with
      | notObject _ => rfl
      | part h _ => exact absurd h (hno _)
    · rintro rfl
      exact .notObject hno

/-! ### Reading again -/

/-- A condition that was read is normal. -/
theorem isNormal_of_ofEntries (hdata : areJsonEntries data) (h : ofEntries data = .ok c) :
    c.IsNormal := by
  rw [ofEntries_eq] at h
  obtain ⟨link, -, h⟩ := bind_eq_ok_iff.mp h
  obtain ⟨termEntries, htermEntries, h⟩ := bind_eq_ok_iff.mp h
  obtain ⟨terms, hterms, h⟩ := bind_eq_ok_iff.mp h
  obtain ⟨actionEntries, hactionEntries, h⟩ := bind_eq_ok_iff.mp h
  obtain ⟨actions, hactions, h⟩ := bind_eq_ok_iff.mp h
  obtain rfl := Except.ok.inj h
  constructor
  · intro t ht
    obtain ⟨es, hes, hread⟩ := exists_of_mem_mapM hterms ht
    have hjson := Entries.areJsonEntries_of_entriesAt hdata (mapError_eq_ok_iff.mp htermEntries)
    exact Term.isNormal_of_read (hjson es hes) hread
  · intro a ha
    obtain ⟨es, hes, hread⟩ := exists_of_mem_mapM hactions ha
    have hjson := Entries.areJsonEntries_of_entriesAt hdata (mapError_eq_ok_iff.mp hactionEntries)
    exact Action.isNormal_of_read (hjson es hes) hread
  · intro v hv
    exact Value.isTruthy_of_present? hv

/-- The object in which all parts of a condition are written, with nothing for an identifier that it
has not. -/
def written (c : Condition) : Value :=
  .object [("id", c.id.getD .null), ("link", .text c.link.name),
    ("terms", .list (c.terms.map (.map ·.toEntries))),
    ("actions", .list (c.actions.map (.map ·.toEntries)))]

/-- A normal condition is read out of the object that it is written as. -/
theorem read_written (h : c.IsNormal) : read c.written = .ok c := by
  apply ofEntries_of_parts h rfl rfl rfl
  show (c.id.getD .null).present? = c.id
  cases hid : c.id with
  | none => rfl
  | some v => exact if_pos (h.id v hid)

/-- The object for a condition of JSON values is a JSON value. -/
theorem IsJson.written (h : c.IsJson) : c.written.isJson := by
  have hid : (c.id.getD .null).isJson := by
    cases hown : c.id with
    | none => rfl
    | some v => exact h.id v hown
  have hterm : ∀ t ∈ c.terms, (Value.map t.toEntries).isJson := by
    intro t ht
    show (Value.object [("field", .text t.field), ("operator", t.operator),
      ("value", .text t.value)]).isJson
    refine Value.isJson_object ?_ ?_
    · show ["field", "operator", "value"].Nodup
      decide
    · simp only [List.forall_mem_cons]
      exact ⟨rfl, h.operator t ht, rfl, List.forall_mem_nil _⟩
  have haction : ∀ a ∈ c.actions, (Value.map a.toEntries).isJson := by
    intro a ha
    show (Value.object [("field", .text a.field), ("visibility", a.visibility)]).isJson
    refine Value.isJson_object ?_ ?_
    · show ["field", "visibility"].Nodup
      decide
    · simp only [List.forall_mem_cons]
      exact ⟨rfl, h.visibility a ha, List.forall_mem_nil _⟩
  have hterms : (Value.list (c.terms.map (.map ·.toEntries))).isJson :=
    Value.isJson_list_iff.mpr (List.forall_mem_map.mpr hterm)
  have hactions : (Value.list (c.actions.map (.map ·.toEntries))).isJson :=
    Value.isJson_list_iff.mpr (List.forall_mem_map.mpr haction)
  refine Value.isJson_object ?_ ?_
  · show ["id", "link", "terms", "actions"].Nodup
    decide
  · simp only [List.forall_mem_cons]
    exact ⟨hid, rfl, hterms, hactions, List.forall_mem_nil _⟩

/-- A JSON value is read as a condition exactly if it is an object whose parts are all as they must
be, and otherwise it is turned down for the first that is not.  What is read is read again, as it
is, out of the object that it is written as, which is a JSON value, too. -/
theorem read_decides_and_rereads {v : Value} (hv : v.isJson) :
    Decides (read v) (IsAcceptable v) (IsTurnedDown v) ∧
      ∀ c, read v = .ok c → c.written.isJson ∧ read c.written = .ok c := by
  refine ⟨decides_read hv, ?_⟩
  intro c hread
  obtain ⟨data, rfl, -⟩ := (decides_read hv).ok_iff.mp ⟨c, hread⟩
  have hdata : areJsonEntries data := hv
  have hof : ofEntries data = .ok c := hread
  exact ⟨(isJson_of_ofEntries hdata hof).written, read_written (isNormal_of_ofEntries hdata hof)⟩

/-- Fields, values and operators that are no texts, and an identifier that counts as missing. -/
theorem read_decides_and_rereads_of_odd_parts :
    let v : Value := .object [("id", .list []), ("link", .text "Any"),
      ("terms", .list [.object [("field", .list [.null]), ("operator", .bool false),
        ("value", .null)]]),
      ("actions", .list [.object [("field", .bool false), ("visibility", .list [])]])]
    let c : Condition := {
      terms := [{ field := "[None]", operator := .bool false, value := "None" }]
      actions := [{ field := "False", visibility := .list [] }]
      link := .any }
    v.isJson ∧ read v = .ok c ∧ read c.written = .ok c := by
  intro v c
  have hv : v.isJson := by decide
  have hread : read v = .ok c := rfl
  obtain ⟨-, hrereads⟩ := read_decides_and_rereads hv
  exact ⟨hv, hread, (hrereads c hread).2⟩

end Condition

end FormPublisher
