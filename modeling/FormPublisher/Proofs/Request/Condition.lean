import FormPublisher.Proofs.Form.Derivation
import FormPublisher.Proofs.Request.Update
import FormPublisher.Proofs.Value.Display

/-!
# Conditions in requests

`Condition.toEntries` is the object with which a request says a condition.  A condition whose parts
are all given (`Condition.IsNormal`) is read out of this object again, as it is
(`Condition.read_toEntries`), and a derived condition is one of them
(`Condition.isNormal_of_mem_derive`).
-/

namespace FormPublisher

variable {α β ε : Type}

/-! ### Parts that are given -/

/-- A value that counts as given for a part that must be there. -/
def Value.IsGiven (v : Value) : Prop := v ≠ .null ∧ v ≠ .text ""

theorem Value.isGiven_text {s : String} (h : s ≠ "") : (Value.text s).IsGiven := by
  refine ⟨nofun, ?_⟩
  rintro htext
  obtain rfl := Scalar.text.inj (Value.scalar.inj htext)
  exact h rfl

theorem Entries.require_of_isGiven {es : Entries} {key : String} {v : Value}
    (hget : es.get key = v) (hv : v.IsGiven) (place : String) : es.require key place = .ok v := by
  unfold require
  rw [hget]
  dsimp only
  split
  · exact absurd rfl hv.1
  · exact absurd rfl hv.2
  · rfl

/-- Objects that were put into a list are found there. -/
theorem entryList_map (ess : List Entries) (place : String) :
    entryList (.list (ess.map .map)) place = .ok ess := by
  have hentries : (ess.map Value.map).mapM Value.entries? = some ess := by
    induction ess with
    | nil => rfl
    | cons es ess ih =>
      rw [List.map_cons, List.mapM_cons, ih]
      rfl
  exact entryList_eq_ok_iff.mpr (Or.inr ⟨_, rfl, hentries⟩)

theorem Entries.entriesAt_of_map {data : Entries} {key : String} {xs : List α}
    {write : α → Entries} (h : data.get key = .list (xs.map (.map <| write ·))) :
    data.entriesAt key = .ok (xs.map write) := by
  have hlist : xs.map (Value.map <| write ·) = (xs.map write).map .map := by
    rw [List.map_map]
    rfl
  rw [entriesAt, h, hlist, entryList_map]

/-- What is read back one by one is read back as a list. -/
theorem mapM_map_eq_ok {write : α → β} {read : β → Except ε α} {xs : List α}
    (h : ∀ x ∈ xs, read (write x) = .ok x) : (xs.map write).mapM read = .ok xs := by
  rw [mapM_eq_ok_iff, List.forall₂_map_left_iff, List.forall₂_same]
  exact h

/-! ### Terms and actions -/

/-- The object for a term. -/
def Term.toEntries (t : Term) : Entries :=
  [(.text "field", .text t.field), (.text "operator", t.operator), (.text "value", .text t.value)]

/-- The object for an action. -/
def Action.toEntries (a : Action) : Entries :=
  [(.text "field", .text a.field), (.text "visibility", a.visibility)]

/-- A term that tests a field in some way. -/
structure Term.IsNormal (t : Term) : Prop where
  field : t.field ≠ ""
  operator : t.operator.IsGiven

/-- An action that does something to a field. -/
structure Action.IsNormal (a : Action) : Prop where
  field : a.field ≠ ""
  visibility : a.visibility.IsGiven

theorem Term.read_toEntries {t : Term} (h : t.IsNormal) : Term.read t.toEntries = .ok t := by
  have hfield : t.toEntries.get "field" = .text t.field := rfl
  have hoperator : t.toEntries.get "operator" = t.operator := rfl
  rw [Term.read_eq, Entries.require_of_isGiven hfield (Value.isGiven_text h.field),
    Entries.require_of_isGiven hoperator h.operator]
  rfl

theorem Action.read_toEntries {a : Action} (h : a.IsNormal) : Action.read a.toEntries = .ok a := by
  have hfield : a.toEntries.get "field" = .text a.field := rfl
  have hvisibility : a.toEntries.get "visibility" = a.visibility := rfl
  rw [Action.read_eq, Entries.require_of_isGiven hfield (Value.isGiven_text h.field),
    Entries.require_of_isGiven hvisibility h.visibility]
  rfl

/-! ### Conditions -/

theorem Link.read_name (link : Link) : Link.read (.text link.name) = .ok link := by
  cases link <;> rfl

namespace Condition

/-- The object for a condition, with an identifier if the condition has one. -/
def toEntries (c : Condition) : Entries :=
  (c.id.map fun v => (.text "id", v)).toList ++
    [(.text "link", .text c.link.name), (.text "terms", .list (c.terms.map (.map ·.toEntries))),
      (.text "actions", .list (c.actions.map (.map ·.toEntries)))]

/-- A condition whose terms and actions are all given, and its identifier, too, if it has one. -/
structure IsNormal (c : Condition) : Prop where
  terms : ∀ t ∈ c.terms, t.IsNormal
  actions : ∀ a ∈ c.actions, a.IsNormal
  id : ∀ v, c.id = some v → v.isTruthy

variable {c : Condition}

/-- A condition is read out of any object that has its parts, whatever else there is in it. -/
theorem ofEntries_of_parts {data : Entries} (h : c.IsNormal)
    (hlink : data.get "link" = .text c.link.name)
    (hterms : data.get "terms" = .list (c.terms.map (.map ·.toEntries)))
    (hactions : data.get "actions" = .list (c.actions.map (.map ·.toEntries)))
    (hid : data.present? "id" = c.id) : ofEntries data = .ok c := by
  have hreadTerms : (c.terms.map Term.toEntries).mapM Term.read = .ok c.terms :=
    mapM_map_eq_ok fun t ht => Term.read_toEntries (h.terms t ht)
  have hreadActions : (c.actions.map Action.toEntries).mapM Action.read = .ok c.actions :=
    mapM_map_eq_ok fun a ha => Action.read_toEntries (h.actions a ha)
  rw [ofEntries_eq, hlink, Link.read_name, Entries.entriesAt_of_map hterms,
    Entries.entriesAt_of_map hactions, hid]
  simp only [mapError_ok, ok_bind, hreadTerms, hreadActions]
  rfl

/-- A condition is read out of its object. -/
theorem read_toEntries (h : c.IsNormal) : read (.map c.toEntries) = .ok c := by
  show ofEntries c.toEntries = .ok c
  unfold toEntries
  apply ofEntries_of_parts h
  · cases c.id <;> rfl
  · cases c.id <;> rfl
  · cases c.id <;> rfl
  · cases hown : c.id with
    | none => rfl
    | some v => exact if_pos (h.id v hown)

/-- A derived condition tests questions for one answer and shows others. -/
theorem isNormal_of_mem_derive {visibility : Visibility} {qs : List Question}
    (h : c ∈ derive visibility qs) : c.IsNormal := by
  obtain ⟨-, rfl⟩ := mem_derive_iff.mp h
  have hequals : (Value.text "equals").IsGiven := Value.isGiven_text (by decide)
  have hshow : (Value.text "Show").IsGiven := Value.isGiven_text (by decide)
  constructor
  · exact List.forall_mem_map.mpr fun n _ => ⟨toString_int_ne_empty n, hequals⟩
  · exact List.forall_mem_map.mpr fun n _ => ⟨toString_int_ne_empty n, hshow⟩
  · exact nofun

end Condition

end FormPublisher
