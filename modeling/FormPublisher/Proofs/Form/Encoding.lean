import FormPublisher.Proofs.Form.Identifiers
import FormPublisher.Proofs.Json.RoundTrip
import FormPublisher.Proofs.Request.Update

/-!
# Encoding conditions

A condition that was read out of JSON can always be encoded (`Condition.gives_encode`), and nothing
of it is lost on the way (`Condition.IsEncodedAs`): its terms and its actions are written one by one
into JSON texts, and what is sent for it is a JSON value again.

What is sent is read back (`exists_areSentAs`, `Condition.isSentAs_toValue`): the text of a list of
conditions is read as objects in which the texts of the terms and of the actions are read as objects
in turn.  This holds of conditions without decimals and torn texts.
-/

namespace FormPublisher

variable {α β : Type}

/-! ### Drawings -/

/-- From every supply of identifiers a drawing gives something with a property. -/
def Drawing.Gives (d : Drawing α) (P : α → Prop) : Prop :=
  ∀ ids, ∃ a ids', d.run.run ids = (.ok a, ids') ∧ P a

namespace Drawing

variable {P : α → Prop} {Q : β → Prop}

theorem gives_pure {a : α} (h : P a) : Gives (pure a) P := fun ids => ⟨a, ids, rfl, h⟩

theorem Gives.bind {d : Drawing α} {f : α → Drawing β} (hd : d.Gives P)
    (hf : ∀ a, P a → (f a).Gives Q) : Gives (d >>= f) Q := by
  intro ids
  obtain ⟨a, ids', hrun, ha⟩ := hd ids
  obtain ⟨b, ids'', hrun', hb⟩ := hf a ha ids'
  exact ⟨b, ids'', by rw [run_bind_of_ok hrun, hrun'], hb⟩

theorem Gives.imp {Q : α → Prop} {d : Drawing α} (hd : d.Gives P) (h : ∀ a, P a → Q a) :
    d.Gives Q := by
  intro ids
  obtain ⟨a, ids', hrun, ha⟩ := hd ids
  exact ⟨a, ids', hrun, h a ha⟩

end Drawing

/-! ### Terms and actions -/

/-- The objects that stand for a term, whatever its identifier. -/
def Term.IsSentAs (t : Term) (v : Value) : Prop :=
  ∃ id : String, v = .object [("id", .text id), ("field", .text t.field),
    ("operator", t.operator), ("value", .text t.value), ("isError", .bool false)]

/-- The objects that stand for an action, whatever its identifier. -/
def Action.IsSentAs (a : Action) (v : Value) : Prop :=
  ∃ id : String, v = .object [("id", .text id), ("visibility", a.visibility),
    ("isError", .bool false), ("field", .text a.field)]

theorem Term.isSentAs_encode (t : Term) (id : String) : t.IsSentAs (t.encode id) := ⟨id, rfl⟩

theorem Action.isSentAs_encode (a : Action) (id : String) : a.IsSentAs (a.encode id) := ⟨id, rfl⟩

theorem Term.IsSentAs.isJson {t : Term} {v : Value} (h : t.IsSentAs v) (ht : t.operator.isJson) :
    v.isJson := by
  obtain ⟨id, rfl⟩ := h
  exact Value.isJson_object (by simp) (by simp [Value.isJson, Scalar.isJson, ht])

theorem Action.IsSentAs.isJson {a : Action} {v : Value} (h : a.IsSentAs v)
    (ha : a.visibility.isJson) : v.isJson := by
  obtain ⟨id, rfl⟩ := h
  exact Value.isJson_object (by simp) (by simp [Value.isJson, Scalar.isJson, ha])

theorem Term.IsSentAs.isPlain {t : Term} {v : Value} (h : t.IsSentAs v)
    (ht : t.operator.isPlain) : v.isPlain := by
  obtain ⟨id, rfl⟩ := h
  exact Value.isPlain_object (by simp [Value.isPlain, Scalar.isPlain, ht])

theorem Action.IsSentAs.isPlain {a : Action} {v : Value} (h : a.IsSentAs v)
    (ha : a.visibility.isPlain) : v.isPlain := by
  obtain ⟨id, rfl⟩ := h
  exact Value.isPlain_object (by simp [Value.isPlain, Scalar.isPlain, ha])

/-- What is made of things and as many identifiers stands for the things one by one. -/
theorem forall₂_zipWith {R : α → Value → Prop} {f : α → String → Value} (hf : ∀ x id, R x (f x id))
    {xs : List α} {ids : List String} (hlength : ids.length = xs.length) :
    List.Forall₂ R xs (List.zipWith f xs ids) := by
  induction xs generalizing ids with
  | nil => exact .nil
  | cons x xs ih =>
    obtain ⟨id, rest, rfl⟩ := List.exists_cons_of_length_eq_add_one hlength
    exact .cons (hf x id) (ih (Nat.succ.inj hlength))

/-! ### Conditions -/

open Drawing

namespace Condition

/-- The identifiers under which a condition is sent: its own, if it has one that counts as present,
or else any text. -/
def MaySendId (c : Condition) (id : Value) : Prop :=
  match c.id.bind Value.present? with
  | some own => id = own
  | none => ∃ new : String, id = .text new

/-- What a condition at an index of a list is encoded as. -/
structure IsEncodedAs (c : Condition) (index : Nat) (e : EncodedCondition) : Prop where
  id : c.MaySendId e.id
  index : e.index = index
  link : e.link = c.link
  terms : ∃ vs, List.Forall₂ Term.IsSentAs c.terms vs ∧
    Json.write .compact (.list vs) = .ok e.terms
  action : ∃ vs, List.Forall₂ Action.IsSentAs c.actions vs ∧
    Json.write .compact (.list vs) = .ok e.action

variable {c : Condition} {vs : List Value}

theorem isJson_of_maySendId (hc : c.IsJson) {id : Value} (h : c.MaySendId id) : id.isJson := by
  unfold MaySendId at h
  split at h
  · rename_i own hown
    obtain ⟨v, hv, hpresent⟩ := Option.bind_eq_some_iff.mp hown
    rw [h]
    exact Value.isJson_of_present? (hc.id v hv) hpresent
  · obtain ⟨new, rfl⟩ := h
    rfl

theorem isJson_list_of_terms (hc : c.IsJson) (h : List.Forall₂ Term.IsSentAs c.terms vs) :
    (Value.list vs).isJson :=
  Value.isJson_list_iff.mpr <|
    forall_mem_of_forall₂ h fun t ht _ hsent => hsent.isJson (hc.operator t ht)

theorem isJson_list_of_actions (hc : c.IsJson) (h : List.Forall₂ Action.IsSentAs c.actions vs) :
    (Value.list vs).isJson :=
  Value.isJson_list_iff.mpr <|
    forall_mem_of_forall₂ h fun a ha _ hsent => hsent.isJson (hc.visibility a ha)

/-- A condition of JSON values can be written. -/
theorem IsJson.isWritable (hc : c.IsJson) : c.IsWritable where
  operator t ht := Json.exists_write_eq_ok .compact (hc.operator t ht)
  visibility a ha := Json.exists_write_eq_ok .compact (hc.visibility a ha)

theorem SendsId.maySendId {new : Option String} {id : Value} (h : c.SendsId new id) :
    c.MaySendId id := by
  unfold SendsId at h
  unfold MaySendId
  cases hown : c.id.bind Value.present? with
  | some own =>
    rw [hown] at h
    exact h.2
  | none =>
    rw [hown] at h
    obtain ⟨n, -, hid⟩ := h
    exact ⟨n, hid⟩

/-- The identifiers are left out of the account of what a condition is encoded as. -/
theorem IsEncodedWith.isEncodedAs {index : Nat} {n : NewIds} {e : EncodedCondition}
    (h : c.IsEncodedWith index n e) : c.IsEncodedAs index e where
  id := h.id.maySendId
  index := h.index
  link := h.link
  terms := ⟨_, forall₂_zipWith Term.isSentAs_encode h.length_terms, h.terms⟩
  action := ⟨_, forall₂_zipWith Action.isSentAs_encode h.length_actions, h.action⟩

/-- A condition of JSON values can be encoded. -/
theorem gives_encode (hc : c.IsJson) (index : Nat) :
    Gives (c.encode index) (c.IsEncodedAs index) := by
  intro ids
  obtain ⟨e, ids', hrun⟩ := (exists_run_encode_iff c index ids).mpr hc.isWritable
  exact ⟨e, ids', hrun, (isEncodedWith_of_run hrun).1.isEncodedAs⟩

end Condition

/-- Conditions from an index on, and what they are encoded as. -/
def AreEncodedAs (index : Nat) (cs : List Condition) (es : List EncodedCondition) : Prop :=
  List.Forall₂ (fun c e => c.1.IsEncodedAs c.2 e) (cs.zipIdx index) es

theorem gives_encodeFrom {cs : List Condition} (hcs : ∀ c ∈ cs, c.IsJson) (index : Nat) :
    Gives (encodeFrom index cs) (AreEncodedAs index cs) := by
  induction cs generalizing index with
  | nil => exact gives_pure .nil
  | cons c cs ih =>
    obtain ⟨hc, hcs⟩ := List.forall_mem_cons.mp hcs
    rw [encodeFrom]
    refine (Condition.gives_encode hc index).bind fun first hfirst => ?_
    exact (ih hcs (index + 1)).bind fun rest hrest => gives_pure (.cons hfirst hrest)

/-! ### What is sent -/

theorem EncodedCondition.isJson_toValue {e : EncodedCondition} (h : e.id.isJson) :
    e.toValue.isJson :=
  Value.isJson_object (by simp) (by simp [Value.isJson, Scalar.isJson, h])

theorem EncodedCondition.isPlain_toValue {e : EncodedCondition} (h : e.id.isPlain) :
    e.toValue.isPlain :=
  Value.isPlain_object (by simp [Value.isPlain, Scalar.isPlain, h])

/-- What holds of the object for each of the conditions holds of all objects that are sent. -/
theorem forall_mem_map_toValue {P : Value → Prop} {index : Nat} {cs : List Condition}
    {es : List EncodedCondition} (h : AreEncodedAs index cs es)
    (hP : ∀ c ∈ cs, ∀ e : EncodedCondition, c.MaySendId e.id → P e.toValue) :
    ∀ v ∈ es.map EncodedCondition.toValue, P v := by
  intro v hv
  obtain ⟨e, he, rfl⟩ := List.mem_map.mp hv
  obtain ⟨c, hc, hencoded⟩ := exists_of_mem_of_forall₂ h he
  exact hP c.1 (List.fst_mem_of_mem_zipIdx hc) e hencoded.id

theorem isJson_list_of_areEncodedAs {index : Nat} {cs : List Condition}
    {es : List EncodedCondition} (h : AreEncodedAs index cs es) (hcs : ∀ c ∈ cs, c.IsJson) :
    (Value.list (es.map EncodedCondition.toValue)).isJson :=
  Value.isJson_list_iff.mpr <| forall_mem_map_toValue h fun c hc _ hid =>
    EncodedCondition.isJson_toValue (Condition.isJson_of_maySendId (hcs c hc) hid)

/-! ### What is read back -/

namespace Condition

/-- A condition without decimals and torn texts. -/
structure IsPlain (c : Condition) : Prop where
  operator : ∀ t ∈ c.terms, t.operator.isPlain
  visibility : ∀ a ∈ c.actions, a.visibility.isPlain
  id : ∀ v, c.id = some v → v.isPlain

/-- The objects from which a condition at an index of a list can be had again: the texts of the
terms and of the actions are read as objects for them, one by one and in order. -/
def IsSentAs (c : Condition) (index : Nat) (v : Value) : Prop :=
  ∃ (id : Value) (termsText actionText : String) (terms actions : List Value),
    v = .object [("id", id), ("index", .text (toString index)), ("link", .text c.link.name),
      ("priority", .text (toString index)), ("type", .text "field"), ("terms", .text termsText),
      ("action", .text actionText)] ∧
    c.MaySendId id ∧
    Json.IsTextOf termsText (.list terms) ∧ List.Forall₂ Term.IsSentAs c.terms terms ∧
    Json.IsTextOf actionText (.list actions) ∧ List.Forall₂ Action.IsSentAs c.actions actions

variable {c : Condition}

theorem isPlain_of_maySendId (hc : c.IsPlain) {id : Value} (h : c.MaySendId id) : id.isPlain := by
  unfold MaySendId at h
  split at h
  · rename_i own hown
    obtain ⟨v, hv, hpresent⟩ := Option.bind_eq_some_iff.mp hown
    unfold Value.present? at hpresent
    split at hpresent
    · rw [h, ← Option.some.inj hpresent]
      exact hc.id v hv
    · cases hpresent
  · obtain ⟨new, rfl⟩ := h
    rfl

/-- What a condition is encoded as is an object from which it can be had again. -/
theorem isSentAs_toValue (hjson : c.IsJson) (hplain : c.IsPlain) {index : Nat}
    {e : EncodedCondition} (h : c.IsEncodedAs index e) : c.IsSentAs index e.toValue := by
  obtain ⟨terms, hterms, htermsText⟩ := h.terms
  obtain ⟨actions, hactions, hactionText⟩ := h.action
  have htermsPlain : (Value.list terms).isPlain := arePlain_iff.mpr <|
    forall_mem_of_forall₂ hterms fun t ht _ hsent => hsent.isPlain (hplain.operator t ht)
  have hactionsPlain : (Value.list actions).isPlain := arePlain_iff.mpr <|
    forall_mem_of_forall₂ hactions fun a ha _ hsent => hsent.isPlain (hplain.visibility a ha)
  refine ⟨e.id, e.terms, e.action, terms, actions, ?_, h.id, ?_, hterms, ?_, hactions⟩
  · rw [EncodedCondition.toValue, h.index, h.link]
  · exact Json.isTextOf_write Json.Layout.isBlank_compact (isJson_list_of_terms hjson hterms)
      htermsPlain htermsText
  · exact Json.isTextOf_write Json.Layout.isBlank_compact (isJson_list_of_actions hjson hactions)
      hactionsPlain hactionText

end Condition

/-- Conditions, and objects from which they can be had again. -/
def AreSentAs (cs : List Condition) (vs : List Value) : Prop :=
  List.Forall₂ (fun c v => c.1.IsSentAs c.2 v) cs.zipIdx vs

/-- The text of the objects for a list of conditions is read as these objects. -/
theorem isTextOf_of_areEncodedAs {index : Nat} {cs : List Condition} {es : List EncodedCondition}
    (h : AreEncodedAs index cs es) (hjson : ∀ c ∈ cs, c.IsJson) (hplain : ∀ c ∈ cs, c.IsPlain)
    {text : String}
    (htext : Json.write .compact (.list (es.map EncodedCondition.toValue)) = .ok text) :
    Json.IsTextOf text (.list (es.map EncodedCondition.toValue)) := by
  have hobjects : (Value.list (es.map EncodedCondition.toValue)).isPlain := arePlain_iff.mpr <|
    forall_mem_map_toValue h fun c hc _ hid =>
      EncodedCondition.isPlain_toValue (Condition.isPlain_of_maySendId (hplain c hc) hid)
  exact Json.isTextOf_write Json.Layout.isBlank_compact (isJson_list_of_areEncodedAs h hjson)
    hobjects htext

/-- The text that is sent for a list of conditions is read as objects from which they can be had
again. -/
theorem exists_areSentAs {cs : List Condition} {es : List EncodedCondition}
    (h : AreEncodedAs 0 cs es) (hjson : ∀ c ∈ cs, c.IsJson) (hplain : ∀ c ∈ cs, c.IsPlain)
    {text : String}
    (htext : Json.write .compact (.list (es.map EncodedCondition.toValue)) = .ok text) :
    ∃ vs, Json.IsTextOf text (.list vs) ∧ AreSentAs cs vs := by
  refine ⟨es.map EncodedCondition.toValue, isTextOf_of_areEncodedAs h hjson hplain htext, ?_⟩
  rw [AreSentAs, List.forall₂_map_right_iff]
  have hall : ∀ c ∈ cs.zipIdx, c.1.IsJson ∧ c.1.IsPlain := fun c hc =>
    ⟨hjson c.1 (List.fst_mem_of_mem_zipIdx hc), hplain c.1 (List.fst_mem_of_mem_zipIdx hc)⟩
  refine ((List.forall₂_and_left _ _).mpr ⟨hall, h⟩).imp fun c e he => ?_
  exact Condition.isSentAs_toValue he.1.1 he.1.2 he.2

end FormPublisher
