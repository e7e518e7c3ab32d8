import FormPublisher.Proofs.Outcome
import FormPublisher.Provider.Call
import FormPublisher.Request.Field

/-!
# Values that come from JSON

`Value.isJson` says which values a JSON text can hold: nothing, truth values, integers that are not
too long, decimals, texts, lists, and mappings from distinct texts.  Pairs, sets, bytes, days and
times, and whatever holds itself, come from configuration files only.

What is done to such a value cannot go wrong: it is written as text (`isWritable_of_isJson`), as
JSON (`exists_write_eq_ok`) and as the field of a form (`exists_formFields_eq_ok`).
-/

namespace FormPublisher

/-! ### The values -/

/-- Whether a scalar can stand in a JSON text. -/
def Scalar.isJson : Scalar → Bool
  | .null | .bool _ | .float _ | .text _ => true
  | .int n => Numeral.isWritable n
  | .torn points => points.any Text.isSurrogate
  | .bytes _ | .date _ | .time _ => false

/-- Whether a scalar can be the key of a JSON object. -/
def Scalar.isJsonKey (k : Scalar) : Bool := k.kind = .text && k.isJson

mutual

/-- Whether a value can be the value of a JSON text. -/
def Value.isJson : Value → Bool
  | .scalar s => s.isJson
  | .list items => areJson items
  | .map entries => areJsonEntries entries
  | .pair _ _ | .set _ | .knot _ _ | .back _ _ => false

/-- Whether all items of a list can be values of JSON texts. -/
def areJson : List Value → Bool
  | [] => true
  | v :: vs => v.isJson && areJson vs

/-- Whether entries can be the members of a JSON object, whose keys are distinct. -/
def areJsonEntries : List (Scalar × Value) → Bool
  | [] => true
  | (k, v) :: es =>
    k.isJsonKey && v.isJson && es.all (fun e => e.1 ≠ k) && areJsonEntries es

end

theorem areJson_iff {vs : List Value} : areJson vs ↔ ∀ v ∈ vs, v.isJson := by
  induction vs with
  | nil => simp [areJson]
  | cons v vs ih => simp [areJson, ih]

theorem areJsonEntries_cons_iff {k : Scalar} {v : Value} {es : Entries} :
    areJsonEntries ((k, v) :: es) ↔
      (k.isJsonKey ∧ v.isJson) ∧ (∀ e ∈ es, e.1 ≠ k) ∧ areJsonEntries es := by
  simp [areJsonEntries, and_assoc]

theorem areJsonEntries_iff {es : Entries} :
    areJsonEntries es ↔
      (∀ e ∈ es, e.1.isJsonKey ∧ e.2.isJson) ∧ (es.map Prod.fst).Nodup := by
  induction es with
  | nil => simp [areJsonEntries]
  | cons e es ih =>
    obtain ⟨k, v⟩ := e
    have hkeys : es.all (fun e => e.1 ≠ k) = true ↔ k ∉ es.map Prod.fst := by
      simp only [List.all_eq_true, decide_eq_true_eq, List.mem_map, not_exists, not_and]
    simp only [areJsonEntries, Bool.and_eq_true, ih, hkeys, List.forall_mem_cons, List.map_cons,
      List.nodup_cons]
    tauto

theorem Value.isJson_list_iff {vs : List Value} : (Value.list vs).isJson ↔ ∀ v ∈ vs, v.isJson :=
  areJson_iff

/-- An object of JSON values under different texts is a JSON value. -/
theorem Value.isJson_object {fields : List (String × Value)}
    (hkeys : (fields.map Prod.fst).Nodup) (h : ∀ f ∈ fields, f.2.isJson) :
    (Value.object fields).isJson := by
  refine areJsonEntries_iff.mpr ⟨?_, ?_⟩
  · intro e he
    obtain ⟨f, hf, rfl⟩ := List.mem_map.mp he
    exact ⟨rfl, h f hf⟩
  · have hfst : (fields.map fun f => ((.text f.1, f.2) : Scalar × Value)).map Prod.fst =
        (fields.map Prod.fst).map Scalar.text := by simp
    rw [hfst]
    exact List.pairwise_map.mpr (hkeys.imp fun hne heq => hne (Scalar.text.inj heq))

/-- A JSON value holds no ways back to itself. -/
theorem Value.opened_of_isJson {v : Value} (h : v.isJson) : v.opened = v := by
  cases v with
  | knot _ _ => simp [Value.isJson] at h
  | _ => rfl

theorem Value.exists_eq_map {v : Value} (hv : v.isJson) (hkind : v.kind = .map) :
    ∃ es, v = .map es := by
  cases v with
  | map es => exact ⟨es, rfl⟩
  | scalar s => cases s <;> cases hkind
  | knot _ _ | back _ _ => simp [Value.isJson] at hv
  | list _ | pair _ _ | set _ => cases hkind

/-! ### Parts -/

theorem Value.isJson_of_present? {v w : Value} (hv : v.isJson) (h : v.present? = some w) :
    w.isJson := by
  unfold Value.present? at h
  split at h
  · rwa [← Option.some.inj h]
  · cases h

namespace Entries

variable {es : Entries}

theorem get?_mem {key : String} {v : Value} (h : es.get? key = some v) :
    (Scalar.text key, v) ∈ es := by
  induction es with
  | nil => cases h
  | cons e es ih =>
    obtain ⟨k, w⟩ := e
    rw [get?] at h
    by_cases hk : k = .text key
    · rw [if_pos hk] at h
      rw [hk, Option.some.inj h]
      exact List.mem_cons_self
    · rw [if_neg hk] at h
      exact List.mem_cons_of_mem _ (ih h)

/-- The values under the keys of a JSON object are JSON values. -/
theorem isJson_of_get? (hes : areJsonEntries es) {key : String} {v : Value}
    (h : es.get? key = some v) : v.isJson :=
  ((areJsonEntries_iff.mp hes).1 _ (get?_mem h)).2

theorem isJson_get (hes : areJsonEntries es) (key : String) : (es.get key).isJson := by
  unfold get
  cases h : es.get? key with
  | none => rfl
  | some v => exact isJson_of_get? hes h

theorem isJson_getText (hes : areJsonEntries es) (key : String) : (es.getText key).isJson := by
  unfold getText
  cases h : es.get? key with
  | none => rfl
  | some v => exact isJson_of_get? hes h

end Entries

theorem Scalar.isJson_of_isJsonKey {k : Scalar} (h : k.isJsonKey) : k.isJson := by
  rw [isJsonKey, Bool.and_eq_true] at h
  exact h.2

/-- Texts are the same key only if they are the same. -/
theorem Scalar.sameKey_of_isJsonKey {a b : Scalar} (ha : a.isJsonKey) (hb : b.isJsonKey) :
    a.sameKey b = (a == b) := by
  simp only [Scalar.isJsonKey, Bool.and_eq_true, decide_eq_true_eq] at ha hb
  cases a with
  | text _ | torn _ =>
    cases b with
    | text _ | torn _ => rfl
    | _ => cases hb.1
  | _ => cases ha.1

theorem fst_of_mem_put {k : Scalar} {v : Value} {es : Entries} {e : Scalar × Value}
    (h : e ∈ Entries.put k v es) : e.1 = k ∨ e.1 ∈ es.map Prod.fst := by
  induction es with
  | nil =>
    obtain rfl := List.mem_singleton.mp h
    exact Or.inl rfl
  | cons e' es ih =>
    obtain ⟨k', v'⟩ := e'
    rw [List.map_cons, List.mem_cons]
    rw [Entries.put] at h
    split at h
    · rcases List.mem_cons.mp h with rfl | h
      · exact Or.inr (Or.inl rfl)
      · exact Or.inr (Or.inr (List.mem_map_of_mem h))
    · rcases List.mem_cons.mp h with rfl | h
      · exact Or.inr (Or.inl rfl)
      · exact (ih h).imp_right Or.inr

/-- A member that is written into a JSON object leaves it a JSON object. -/
theorem areJsonEntries_put {es : Entries} (hes : areJsonEntries es) {k : Scalar}
    (hk : k.isJsonKey) {v : Value} (hv : v.isJson) : areJsonEntries (Entries.put k v es) := by
  induction es with
  | nil => simp [Entries.put, areJsonEntries, hk, hv]
  | cons e es ih =>
    obtain ⟨k', v'⟩ := e
    obtain ⟨⟨hk', hv'⟩, hnew, hes⟩ := areJsonEntries_cons_iff.mp hes
    rw [Entries.put, Scalar.sameKey_of_isJsonKey hk' hk]
    by_cases heq : k' = k
    · rw [if_pos (beq_iff_eq.mpr heq)]
      exact areJsonEntries_cons_iff.mpr ⟨⟨hk', hv⟩, hnew, hes⟩
    · rw [if_neg (fun h => heq (beq_iff_eq.mp h))]
      refine areJsonEntries_cons_iff.mpr ⟨⟨hk', hv'⟩, fun e he => ?_, ih hes⟩
      -- The new key is another one, and all others were there before.
      rcases fst_of_mem_put he with hek | hek
      · rw [hek]
        exact Ne.symm heq
      · obtain ⟨e', he', hfst⟩ := List.mem_map.mp hek
        rw [← hfst]
        exact hnew e' he'

/-! ### Written as text -/

theorem Scalar.isWritable_of_isJson {s : Scalar} (h : s.isJson) : s.isWritable := by
  cases s with
  | int n => exact h
  | _ => rfl

mutual

/-- A JSON value can be written as text. -/
theorem Value.isWritable_of_isJson {v : Value} (h : v.isJson) : v.isWritable := by
  cases v with
  | scalar s => exact Scalar.isWritable_of_isJson h
  | list items => exact areWritable_of_areJson h
  | map entries => exact areWritableEntries_of_areJsonEntries h
  | pair _ _ | set _ | knot _ _ | back _ _ => simp [Value.isJson] at h

theorem areWritable_of_areJson {vs : List Value} (h : areJson vs) : areWritable vs := by
  cases vs with
  | nil => rfl
  | cons v vs =>
    simp only [areJson, Bool.and_eq_true] at h
    simp only [areWritable, Bool.and_eq_true]
    exact ⟨Value.isWritable_of_isJson h.1, areWritable_of_areJson h.2⟩

theorem areWritableEntries_of_areJsonEntries {es : Entries} (h : areJsonEntries es) :
    areWritableEntries es := by
  cases es with
  | nil => rfl
  | cons e es =>
    obtain ⟨k, v⟩ := e
    obtain ⟨⟨hk, hv⟩, -, hes⟩ := areJsonEntries_cons_iff.mp h
    simp only [areWritableEntries, Bool.and_eq_true]
    exact ⟨⟨Scalar.isWritable_of_isJson (Scalar.isJson_of_isJsonKey hk),
      Value.isWritable_of_isJson hv⟩,
      areWritableEntries_of_areJsonEntries hes⟩

end

theorem Value.render_of_isJson {v : Value} (h : v.isJson) : v.render = .ok v.display :=
  render_eq_ok_iff.mpr ⟨Value.isWritable_of_isJson h, rfl⟩

theorem Value.exists_render_eq_ok {v : Value} (h : v.isJson) : ∃ s, v.render = .ok s :=
  ⟨v.display, render_of_isJson h⟩

theorem Scalar.exists_render_eq_ok {s : Scalar} (h : s.isJson) : ∃ t, s.render = .ok t :=
  ⟨s.display, if_pos (Scalar.isWritable_of_isJson h)⟩

/-! ### Written as JSON -/

namespace Json

theorem scalarToken_of_isJson {s : Scalar} (h : s.isJson) : scalarToken s = .ok (.atom s) := by
  have hw := Scalar.isWritable_of_isJson h
  cases s with
  | bytes _ | date _ | time _ => cases h
  | _ => simp only [scalarToken, hw, if_true]

/-- The key of a JSON object is a text, so its token is this text. -/
theorem keyToken_of_isJsonKey {inFull : Bool} {k : Scalar} (h : k.isJsonKey) :
    keyToken inFull k = .ok (.atom k) := by
  simp only [Scalar.isJsonKey, Bool.and_eq_true, decide_eq_true_eq] at h
  cases k with
  | text _ | torn _ => rfl
  | _ => cases h.1

variable {inFull : Bool}

mutual

/-- A JSON value has tokens. -/
theorem exists_tokens_eq_ok {v : Value} (h : v.isJson) : ∃ ts, tokens inFull v = .ok ts := by
  cases v with
  | scalar s =>
    exact ⟨[.atom s], by rw [tokens, scalarToken_of_isJson h]; rfl⟩
  | list items =>
    cases items with
    | nil => exact ⟨_, rfl⟩
    | cons v vs =>
      simp only [Value.isJson, areJson, Bool.and_eq_true] at h
      obtain ⟨first, hfirst⟩ := exists_tokens_eq_ok h.1
      obtain ⟨rest, hrest⟩ := exists_itemTokens_eq_ok h.2
      exact ⟨_, by rw [tokens, hfirst, ok_bind, hrest]; rfl⟩
  | map entries =>
    cases entries with
    | nil => exact ⟨_, rfl⟩
    | cons e es =>
      obtain ⟨k, v⟩ := e
      obtain ⟨⟨hk, hv⟩, -, hes⟩ := areJsonEntries_cons_iff.mp h
      obtain ⟨first, hfirst⟩ := exists_tokens_eq_ok hv
      obtain ⟨rest, hrest⟩ := exists_memberTokens_eq_ok hes
      exact ⟨_, by rw [tokens, keyToken_of_isJsonKey hk, ok_bind, hfirst, ok_bind, hrest]; rfl⟩
  | pair _ _ | set _ | knot _ _ | back _ _ => simp [Value.isJson] at h

theorem exists_itemTokens_eq_ok {vs : List Value} (h : areJson vs) :
    ∃ ts, itemTokens inFull vs = .ok ts := by
  cases vs with
  | nil => exact ⟨_, rfl⟩
  | cons v vs =>
    simp only [areJson, Bool.and_eq_true] at h
    obtain ⟨first, hfirst⟩ := exists_tokens_eq_ok h.1
    obtain ⟨rest, hrest⟩ := exists_itemTokens_eq_ok h.2
    exact ⟨_, by rw [itemTokens, hfirst, ok_bind, hrest]; rfl⟩

theorem exists_memberTokens_eq_ok {es : Entries} (h : areJsonEntries es) :
    ∃ ts, memberTokens inFull es = .ok ts := by
  cases es with
  | nil => exact ⟨_, rfl⟩
  | cons e es =>
    obtain ⟨k, v⟩ := e
    obtain ⟨⟨hk, hv⟩, -, hes⟩ := areJsonEntries_cons_iff.mp h
    obtain ⟨first, hfirst⟩ := exists_tokens_eq_ok hv
    obtain ⟨rest, hrest⟩ := exists_memberTokens_eq_ok hes
    exact ⟨_, by rw [memberTokens, keyToken_of_isJsonKey hk, ok_bind, hfirst, ok_bind, hrest]; rfl⟩

end

/-- A JSON value has a JSON text in every layout. -/
theorem exists_write_eq_ok (layout : Layout) {v : Value} (h : v.isJson) :
    ∃ s, write layout v = .ok s := by
  obtain ⟨ts, hts⟩ : ∃ ts, tokens layout.namesInFull v = .ok ts := exists_tokens_eq_ok h
  exact ⟨_, by rw [write, hts]; rfl⟩

end Json

/-! ### Written as the field of a form -/

theorem exists_formValue_eq_ok {v : Value} (h : v.isJson) : ∃ s, formValue v = .ok s := by
  unfold formValue
  rw [Value.opened_of_isJson h]
  split
  · exact ⟨_, rfl⟩
  · exact ⟨_, rfl⟩
  · exact Json.exists_write_eq_ok _ h
  · exact Json.exists_write_eq_ok _ h
  · exact Value.exists_render_eq_ok h

theorem Scalar.exists_spelling_eq_ok {k : Scalar} (h : k.isJson) : ∃ s, k.spelling = .ok s := by
  unfold Scalar.spelling
  split
  · exact ⟨_, rfl⟩
  · obtain ⟨t, ht⟩ := Scalar.exists_render_eq_ok h
    exact ⟨_, by rw [ht]; rfl⟩

/-- The entries of a JSON object can be written as the fields of a group. -/
theorem exists_formFields_eq_ok (group : String) {es : Entries} (h : areJsonEntries es) :
    ∃ fields, formFields group es = .ok fields := by
  have hes := (areJsonEntries_iff.mp h).1
  obtain ⟨spelled, hspelled⟩ : ∃ spelled, es.mapM formField = .ok spelled := by
    clear h
    induction es with
    | nil => exact ⟨[], rfl⟩
    | cons e es ih =>
      obtain ⟨he, hes⟩ := List.forall_mem_cons.mp hes
      obtain ⟨key, hkey⟩ := Scalar.exists_spelling_eq_ok (Scalar.isJson_of_isJsonKey he.1)
      obtain ⟨text, htext⟩ := exists_formValue_eq_ok he.2
      obtain ⟨rest, hrest⟩ := ih hes
      refine ⟨(key, text) :: rest, ?_⟩
      rw [List.mapM_cons, formField, hkey, ok_bind, htext, ok_bind, hrest]
      rfl
  exact ⟨_, by rw [formFields, hspelled]; rfl⟩

end FormPublisher
