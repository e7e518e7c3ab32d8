import FormPublisher.Proofs.Request.Condition

/-!
# Checks made one after another

A reader checks a request part by part and turns it down for the first part that is not as it should
be.  `Decides` says this of a reader, with the check that it makes and the reasons for which this
check fails, and `FirstFails` puts a row of checks together: `Decides.cons` follows the steps of a
reader, and `Decides.mapM` the entries of a list.

A part of a request is an object or a list of objects, in which some keys must be given (`Shape`).
The shape of the whole part is checked before the keys of any entry (`Decides.object`,
`Decides.objects`).
-/

namespace FormPublisher

variable {ι α β : Type}

/-! ### The first check that fails -/

section FirstFails

variable {passes : ι → Prop} {fails : ι → Rejection → Prop} {cause : Rejection}

/-- A row of checks of which the first that is not passed fails for a reason. -/
def FirstFails (passes : ι → Prop) (fails : ι → Rejection → Prop) (checks : List ι)
    (cause : Rejection) : Prop :=
  ∃ before check after, checks = before ++ check :: after ∧ (∀ c ∈ before, passes c) ∧
    fails check cause

theorem not_firstFails_nil : ¬ FirstFails passes fails [] cause := by
  rintro ⟨before, check, after, hsplit, -⟩
  simp at hsplit

/-- The first check fails, or it is passed and the first of the others fails. -/
theorem firstFails_cons_iff {c : ι} {cs : List ι} :
    FirstFails passes fails (c :: cs) cause ↔
      fails c cause ∨ passes c ∧ FirstFails passes fails cs cause := by
  constructor
  · rintro ⟨before, check, after, hsplit, hbefore, hcheck⟩
    cases before with
    | nil =>
      obtain ⟨rfl, -⟩ := List.cons.inj hsplit
      exact Or.inl hcheck
    | cons b before =>
      obtain ⟨rfl, hrest⟩ := List.cons.inj hsplit
      obtain ⟨hc, hbefore⟩ := List.forall_mem_cons.mp hbefore
      exact Or.inr ⟨hc, before, check, after, hrest, hbefore, hcheck⟩
  · rintro (hc | ⟨hc, before, check, after, rfl, hbefore, hcheck⟩)
    · exact ⟨[], c, cs, rfl, List.forall_mem_nil _, hc⟩
    · exact ⟨c :: before, check, after, rfl, List.forall_mem_cons.mpr ⟨hc, hbefore⟩, hcheck⟩

/-- A row of checks that fails is not passed. -/
theorem FirstFails.not_forall {cs : List ι} (h : FirstFails passes fails cs cause)
    (hfails : ∀ c, fails c cause → ¬ passes c) : ¬ ∀ c ∈ cs, passes c := by
  obtain ⟨before, check, after, rfl, -, hcheck⟩ := h
  exact fun hall => hfails check hcheck (hall check (by simp))

end FirstFails

/-! ### Readers -/

/-- A reader that gives something exactly if a check is passed, and that otherwise turns the request
down for a reason for which the check fails. -/
structure Decides (x : Except Fault α) (passes : Prop) (fails : Rejection → Prop) : Prop where
  ok_iff : (∃ a, x = .ok a) ↔ passes
  error_iff : ∀ fault, x = .error fault ↔ ∃ cause, fault = .rejected cause ∧ fails cause

theorem decides_of_ok {x : Except Fault α} {passes : Prop} {fails : Rejection → Prop}
    (hx : ∃ a, x = .ok a) (hpasses : passes) (hfails : ∀ cause, ¬ fails cause) :
    Decides x passes fails where
  ok_iff := ⟨fun _ => hpasses, fun _ => hx⟩
  error_iff fault := by
    obtain ⟨a, rfl⟩ := hx
    exact ⟨nofun, fun ⟨cause, _, h⟩ => absurd h (hfails cause)⟩

theorem decides_of_error {x : Except Fault α} {passes : Prop} {fails : Rejection → Prop}
    {cause : Rejection} (hx : x = .error (.rejected cause)) (hpasses : ¬ passes)
    (hfails : ∀ c, fails c ↔ c = cause) : Decides x passes fails where
  ok_iff := by
    rw [hx]
    exact ⟨nofun, fun h => absurd h hpasses⟩
  error_iff fault := by
    rw [hx]
    constructor
    · intro h
      exact ⟨cause, (Except.error.inj h).symm, (hfails cause).mpr rfl⟩
    · rintro ⟨c, rfl, hc⟩
      rw [(hfails c).mp hc]

/-- What is made of the result changes nothing about the check. -/
theorem Decides.map {x : Except Fault α} {passes : Prop} {fails : Rejection → Prop}
    (h : Decides x passes fails) (f : α → β) : Decides (f <$> x) passes fails where
  ok_iff := by
    rw [← h.ok_iff]
    cases x <;> simp
  error_iff fault := by
    rw [← h.error_iff]
    cases x <;> simp

theorem Decides.congr {x : Except Fault α} {passes passes' : Prop}
    {fails fails' : Rejection → Prop} (h : Decides x passes fails) (hpasses : passes ↔ passes')
    (hfails : ∀ cause, fails cause ↔ fails' cause) : Decides x passes' fails' where
  ok_iff := h.ok_iff.trans hpasses
  error_iff fault := by
    simp only [← hfails]
    exact h.error_iff fault

/-- Whoever reads in this way only ever turns requests down. -/
theorem Decides.onlyRejects {x : Except Fault α} {passes : Prop} {fails : Rejection → Prop}
    (h : Decides x passes fails) : OnlyRejects x := by
  intro fault hx
  obtain ⟨cause, hcause, -⟩ := (h.error_iff fault).mp hx
  exact ⟨cause, hcause⟩

/-- A reader that makes a row of checks. -/
abbrev DecidesAll (x : Except Fault α) (passes : ι → Prop) (fails : ι → Rejection → Prop)
    (checks : List ι) : Prop :=
  Decides x (∀ c ∈ checks, passes c) (FirstFails passes fails checks)

section Decides

variable {passes : ι → Prop} {fails : ι → Rejection → Prop}

/-- What always gives something makes no check. -/
theorem decides_nil {x : Except Fault α} (h : ∃ a, x = .ok a) : DecidesAll x passes fails [] :=
  decides_of_ok h (List.forall_mem_nil _) fun _ => not_firstFails_nil

/-- A step that makes the first check, and others after it that make the rest. -/
theorem Decides.cons {x : Except Fault α} {f : α → Except Fault β} {c : ι} {cs : List ι}
    (hx : Decides x (passes c) (fails c)) (hf : ∀ a, x = .ok a → DecidesAll (f a) passes fails cs) :
    DecidesAll (x >>= f) passes fails (c :: cs) := by
  cases x with
  | error e =>
    -- The first check fails, so the others are never made.
    have hc : ¬ passes c := fun hc => by
      obtain ⟨a, ha⟩ := hx.ok_iff.mpr hc
      cases ha
    refine ⟨⟨nofun, fun h => absurd (h c List.mem_cons_self) hc⟩, fun fault => ?_⟩
    rw [error_bind]
    simp only [firstFails_cons_iff, hc, false_and, or_false, ← hx.error_iff fault,
      Except.error.injEq]
  | ok a =>
    -- The first check is passed, so only one of the others can fail.
    have hc : passes c := hx.ok_iff.mp ⟨a, rfl⟩
    have hfails : ∀ cause, ¬ fails c cause := fun cause h => by
      cases (hx.error_iff (.rejected cause)).mpr ⟨cause, rfl, h⟩
    rw [ok_bind]
    refine (hf a rfl).congr ?_ fun cause => ?_
    · rw [List.forall_mem_cons]
      exact ⟨fun h => ⟨hc, h⟩, And.right⟩
    · simp only [firstFails_cons_iff, hfails, hc, true_and, false_or]

/-- A list is read entry by entry, up to the first entry that is turned down. -/
theorem Decides.mapM {f : ι → Except Fault α} {xs : List ι}
    (h : ∀ x ∈ xs, Decides (f x) (passes x) (fails x)) :
    DecidesAll (xs.mapM f) passes fails xs := by
  induction xs with
  | nil => exact decides_nil ⟨[], rfl⟩
  | cons x xs ih =>
    obtain ⟨hx, hxs⟩ := List.forall_mem_cons.mp h
    rw [List.mapM_cons]
    refine hx.cons fun y _ => ?_
    rw [← map_eq_pure_bind]
    exact (ih hxs).map _

end Decides

/-! ### Keys that must be given -/

namespace Entries

/-- Whether all these keys are given. -/
def GivesAll (keys : List String) (es : Entries) : Prop := ∀ key ∈ keys, (es.get key).IsGiven

/-- The reason is the first of these keys that is not given. -/
def Lacks (place : String) (keys : List String) (es : Entries) (cause : Rejection) : Prop :=
  FirstFails (fun key => (es.get key).IsGiven)
    (fun key cause => ¬ (es.get key).IsGiven ∧ cause = .missing key place) keys cause

/-- A reader that asks for these keys in this order, and for nothing else. -/
abbrev Requires (place : String) (keys : List String) (es : Entries) (x : Except Fault α) : Prop :=
  Decides x (es.GivesAll keys) (es.Lacks place keys)

variable {place key : String} {es : Entries}

theorem require_of_not_isGiven (h : ¬ (es.get key).IsGiven) (place : String) :
    es.require key place = .error (.missing key place) := by
  unfold require
  dsimp only
  split
  · rfl
  · rfl
  · rename_i hnull hempty
    exact absurd ⟨hnull, hempty⟩ h

theorem decides_require : Decides ((es.require key place).mapError .rejected)
    ((es.get key).IsGiven)
    (fun cause => ¬ (es.get key).IsGiven ∧ cause = .missing key place) := by
  by_cases h : (es.get key).IsGiven
  · rw [require_of_isGiven rfl h]
    exact decides_of_ok ⟨_, rfl⟩ h fun _ hfails => hfails.1 h
  · rw [require_of_not_isGiven h]
    exact decides_of_error rfl h fun c => ⟨And.right, fun hc => ⟨h, hc⟩⟩

/-- Reading goes on with what was asked for. -/
theorem requires_cons {keys : List String} {f : Value → Except Fault β}
    (hf : ∀ v, es.require key place = .ok v → es.Requires place keys (f v)) :
    es.Requires place (key :: keys) ((es.require key place).mapError .rejected >>= f) :=
  decides_require.cons fun v hv => hf v (mapError_eq_ok_iff.mp hv)

theorem field_of_lacks {keys : List String} {cause : Rejection} (h : es.Lacks place keys cause) :
    cause.field = some place := by
  obtain ⟨-, key, -, -, -, -, rfl⟩ := h
  rfl

theorem not_givesAll_of_lacks {keys : List String} {cause : Rejection}
    (h : es.Lacks place keys cause) : ¬ es.GivesAll keys :=
  FirstFails.not_forall h fun _ => And.left

end Entries

/-! ### Shapes -/

/-- What stands at a place of a request, unless it is missing: an object, or a list of objects, in
which these keys must be given. -/
inductive Shape where
  | object (keys : List String)
  | objects (keys : List String)

namespace Shape

/-- The values of a shape. -/
def Accepts : Shape → Value → Prop
  | object keys, v => v = .null ∨ ∃ es : Entries, v = .map es ∧ es.GivesAll keys
  | objects keys, v =>
    v = .null ∨ ∃ ess : List Entries, v = .list (ess.map .map) ∧ ∀ es ∈ ess, es.GivesAll keys

/-- Why a value is not of a shape.  No entry of a list is asked for its keys unless all entries are
objects. -/
inductive Rejects (place : String) (v : Value) : Shape → Rejection → Prop
  | notObject {keys : List String} (hnull : v ≠ .null) (hmap : ∀ es, v ≠ .map es) :
      Rejects place v (.object keys) (.notObject place)
  | lacks {keys : List String} {es : Entries} {cause : Rejection} (hmap : v = .map es)
      (hlacks : es.Lacks place keys cause) : Rejects place v (.object keys) cause
  | notList {keys : List String} (hnull : v ≠ .null) (hlist : ∀ items, v ≠ .list items) :
      Rejects place v (.objects keys) (.notList place)
  | entryNotObject {keys : List String} {items : List Value} (hlist : v = .list items)
      (hitem : ∃ item ∈ items, ∀ es, item ≠ .map es) :
      Rejects place v (.objects keys) (.entryNotObject place)
  | entryLacks {keys : List String} {ess : List Entries} {cause : Rejection}
      (hlist : v = .list (ess.map .map))
      (hlacks : FirstFails (Entries.GivesAll keys) (Entries.Lacks place keys) ess cause) :
      Rejects place v (.objects keys) cause

variable {place : String} {keys : List String} {v : Value} {cause : Rejection}

/-- A reason names the place where a value is not of a shape. -/
theorem Rejects.field {shape : Shape} (h : shape.Rejects place v cause) :
    cause.field = some place := by
  cases h with
  | notObject | notList | entryNotObject => rfl
  | lacks _ hlacks => exact Entries.field_of_lacks hlacks
  | entryLacks _ hlacks =>
    obtain ⟨-, es, -, -, -, hlacks⟩ := hlacks
    exact Entries.field_of_lacks hlacks

theorem map_map_injective {ess ess' : List Entries} (h : ess.map Value.map = ess'.map Value.map) :
    ess = ess' :=
  List.map_injective_iff.mpr (fun _ _ => Value.map.inj) h

theorem ne_map_map {items : List Value} (hitem : ∃ item ∈ items, ∀ es, item ≠ .map es)
    (ess : List Entries) : items ≠ ess.map .map := by
  rintro rfl
  obtain ⟨item, hmem, hno⟩ := hitem
  obtain ⟨es, -, rfl⟩ := List.mem_map.mp hmem
  exact hno es rfl

theorem accepts_null (shape : Shape) : shape.Accepts .null := by
  cases shape <;> exact Or.inl rfl

theorem accepts_object_map_iff {es : Entries} :
    (object keys).Accepts (.map es) ↔ es.GivesAll keys := by
  simp [Accepts, Value.null]

theorem accepts_objects_map_iff {ess : List Entries} :
    (objects keys).Accepts (.list (ess.map .map)) ↔ ∀ es ∈ ess, es.GivesAll keys := by
  constructor
  · rintro (h | ⟨ess', h, hgives⟩)
    · cases h
    · rwa [map_map_injective (Value.list.inj h)]
  · exact fun h => Or.inr ⟨ess, rfl, h⟩

/-- What is rejected is not accepted. -/
theorem Rejects.not_accepts {shape : Shape} (h : shape.Rejects place v cause) :
    ¬ shape.Accepts v := by
  cases h with
  | notObject hnull hmap =>
    rintro (h | ⟨es, h, -⟩)
    · exact hnull h
    · exact hmap es h
  | lacks hmap hlacks =>
    subst hmap
    rw [accepts_object_map_iff]
    exact Entries.not_givesAll_of_lacks hlacks
  | notList hnull hlist =>
    rintro (h | ⟨ess, h, -⟩)
    · exact hnull h
    · exact hlist _ h
  | entryNotObject hlist hitem =>
    subst hlist
    rintro (h | ⟨ess, h, -⟩)
    · cases h
    · exact ne_map_map hitem ess (Value.list.inj h)
  | entryLacks hlist hlacks =>
    subst hlist
    rw [accepts_objects_map_iff]
    exact hlacks.not_forall fun es => Entries.not_givesAll_of_lacks

/-! The kind of a value tells which clause can apply to it. -/

theorem rejects_object_map_iff {es : Entries} :
    (object keys).Rejects place (.map es) cause ↔ es.Lacks place keys cause := by
  constructor
  · intro h
    cases h with
    | notObject _ hmap => exact absurd rfl (hmap es)
    | lacks hmap hlacks =>
      obtain rfl := Value.map.inj hmap
      exact hlacks
  · exact Rejects.lacks rfl

theorem rejects_object_iff (hnull : v ≠ .null) (hmap : ∀ es, v ≠ .map es) :
    (object keys).Rejects place v cause ↔ cause = .notObject place := by
  constructor
  · intro h
    cases h with
    | notObject _ _ => rfl
    | lacks h _ => exact absurd h (hmap _)
  · rintro rfl
    exact .notObject hnull hmap

theorem rejects_objects_map_iff {ess : List Entries} :
    (objects keys).Rejects place (.list (ess.map .map)) cause ↔
      FirstFails (Entries.GivesAll keys) (Entries.Lacks place keys) ess cause := by
  constructor
  · intro h
    cases h with
    | notList _ hlist => exact absurd rfl (hlist _)
    | entryNotObject hlist hitem =>
      exact absurd (Value.list.inj hlist).symm (ne_map_map hitem ess)
    | entryLacks hlist hlacks => rwa [map_map_injective (Value.list.inj hlist)]
  · exact Rejects.entryLacks rfl

theorem rejects_objects_list_iff {items : List Value}
    (hitem : ∃ item ∈ items, ∀ es, item ≠ .map es) :
    (objects keys).Rejects place (.list items) cause ↔ cause = .entryNotObject place := by
  constructor
  · intro h
    cases h with
    | notList _ hlist => exact absurd rfl (hlist _)
    | entryNotObject _ _ => rfl
    | entryLacks hlist _ => exact absurd (Value.list.inj hlist) (ne_map_map hitem _)
  · rintro rfl
    exact .entryNotObject rfl hitem

theorem rejects_objects_iff (hnull : v ≠ .null) (hlist : ∀ items, v ≠ .list items) :
    (objects keys).Rejects place v cause ↔ cause = .notList place := by
  constructor
  · intro h
    cases h with
    | notList _ _ => rfl
    | entryNotObject h _ | entryLacks h _ => exact absurd h (hlist _)
  · rintro rfl
    exact .notList hnull hlist

end Shape

/-! ### Reading parts of a shape -/

section Parts

variable {place : String} {keys : List String} {v : Value}

theorem mappingOf_of_other (hv : v.isJson) (hnull : v ≠ .null) (hmap : ∀ es, v ≠ .map es) :
    mappingOf v place = .error (.notObject place) := by
  unfold mappingOf
  rw [Value.opened_of_isJson hv]
  split
  · exact absurd rfl hnull
  · exact absurd rfl (hmap _)
  · rfl

theorem entryList_of_other (hv : v.isJson) (hnull : v ≠ .null) (hlist : ∀ items, v ≠ .list items) :
    entryList v place = .error (.notList place) := by
  unfold entryList
  rw [Value.opened_of_isJson hv]
  split
  · exact absurd rfl hnull
  · exact absurd rfl (hlist _)
  · rfl

theorem Value.entries?_of_other (hv : v.isJson) (hmap : ∀ es, v ≠ .map es) : v.entries? = none := by
  unfold entries?
  rw [opened_of_isJson hv]
  split
  · exact absurd rfl (hmap _)
  · rfl

/-- The items of a list are objects, or one of them is none and the list is none of objects. -/
theorem mapM_entries?_cases {items : List Value} (hitems : ∀ item ∈ items, item.isJson) :
    (∃ ess : List Entries, items = ess.map .map) ∨
      (∃ item ∈ items, ∀ es, item ≠ .map es) ∧ items.mapM Value.entries? = none := by
  induction items with
  | nil => exact Or.inl ⟨[], rfl⟩
  | cons item items ih =>
    obtain ⟨hitem, hrest⟩ := List.forall_mem_cons.mp hitems
    by_cases hmap : ∃ es, item = .map es
    · -- An item that is an object leaves the question to the others.
      obtain ⟨es, rfl⟩ := hmap
      rcases ih hrest with ⟨ess, rfl⟩ | ⟨⟨other, hother, hno⟩, hnone⟩
      · exact Or.inl ⟨es :: ess, rfl⟩
      · refine Or.inr ⟨⟨other, List.mem_cons_of_mem _ hother, hno⟩, ?_⟩
        rw [List.mapM_cons, hnone]
        rfl
    · have hno : ∀ es, item ≠ .map es := fun es h => hmap ⟨es, h⟩
      refine Or.inr ⟨⟨item, List.mem_cons_self, hno⟩, ?_⟩
      rw [List.mapM_cons, Value.entries?_of_other hitem hno]
      rfl

theorem entryList_of_entryNotObject {items : List Value}
    (hnone : items.mapM Value.entries? = none) :
    entryList (.list items) place = .error (.entryNotObject place) := by
  unfold entryList
  simp only [Value.opened_list, hnone]

/-- A reader that fails for the only reason for which a value is not of a shape. -/
theorem Shape.decides_of_error {x : Except Fault α} {shape : Shape} {cause : Rejection}
    (hx : x = .error (.rejected cause)) (h : ∀ c, shape.Rejects place v c ↔ c = cause) :
    Decides x (shape.Accepts v) (shape.Rejects place v) :=
  FormPublisher.decides_of_error hx ((h cause).mpr rfl).not_accepts h

/-- Nothing is a value of every shape. -/
theorem Shape.decides_null {x : Except Fault α} (hx : ∃ a, x = .ok a) (shape : Shape) :
    Decides x (shape.Accepts .null) (shape.Rejects place .null) :=
  decides_of_ok hx shape.accepts_null fun _ h => h.not_accepts shape.accepts_null

/-- An object is read after it was found to be one, and nothing is read when it is missing. -/
theorem Decides.object {read : Entries → Except Fault α} (hv : v.isJson)
    (hread : ∀ es : Entries, areJsonEntries es → es.Requires place keys (read es)) :
    Decides ((mappingOf v place).mapError .rejected >>= fun found => found.mapM read)
      ((Shape.object keys).Accepts v) ((Shape.object keys).Rejects place v) := by
  by_cases hnull : v = .null
  · subst hnull
    exact Shape.decides_null ⟨none, rfl⟩ _
  by_cases hmap : ∃ es, v = .map es
  · obtain ⟨es, rfl⟩ := hmap
    exact ((hread es hv).map some).congr Shape.accepts_object_map_iff.symm
      fun _ => Shape.rejects_object_map_iff.symm
  · have hno : ∀ es, v ≠ .map es := fun es h => hmap ⟨es, h⟩
    rw [mappingOf_of_other hv hnull hno]
    exact Shape.decides_of_error rfl fun _ => Shape.rejects_object_iff hnull hno

/-- The objects of a list are read after all of them were found to be objects. -/
theorem Decides.objects {read : Entries → Except Fault α} (hv : v.isJson)
    (hread : ∀ es : Entries, areJsonEntries es → es.Requires place keys (read es)) :
    Decides ((entryList v place).mapError .rejected >>= fun ess => ess.mapM read)
      ((Shape.objects keys).Accepts v) ((Shape.objects keys).Rejects place v) := by
  by_cases hnull : v = .null
  · subst hnull
    exact Shape.decides_null ⟨[], rfl⟩ _
  by_cases hlist : ∃ items, v = .list items
  · obtain ⟨items, rfl⟩ := hlist
    have hitems := Value.isJson_list_iff.mp hv
    rcases mapM_entries?_cases hitems with ⟨ess, rfl⟩ | ⟨hitem, hnone⟩
    · rw [entryList_map, mapError_ok, ok_bind]
      refine (Decides.mapM fun es hes => hread es ?_).congr Shape.accepts_objects_map_iff.symm
        fun _ => Shape.rejects_objects_map_iff.symm
      exact hitems _ (List.mem_map_of_mem hes)
    · rw [entryList_of_entryNotObject hnone]
      exact Shape.decides_of_error rfl fun _ => Shape.rejects_objects_list_iff hitem
  · have hno : ∀ items, v ≠ .list items := fun items h => hlist ⟨items, h⟩
    rw [entryList_of_other hv hnull hno]
    exact Shape.decides_of_error rfl fun _ => Shape.rejects_objects_iff hnull hno

end Parts

end FormPublisher
