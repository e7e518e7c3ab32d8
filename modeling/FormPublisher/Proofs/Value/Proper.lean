import FormPublisher.Proofs.Json.Value
import FormPublisher.Proofs.Value.Mapping
import FormPublisher.Proofs.Value.Spelling

/-!
# Proper values

The keys of a mapping that was read differ, and the decimals among them are doubles.  A value is
proper if this holds of every mapping in it (`Value.IsProper`).  JSON values are
(`Value.isProper_of_isJson`), and so is what is found under the keys of a proper mapping.

A proper value that holds itself stays so when it is opened (`Value.IsProper.opened`): opening puts
a value in the place of others, but it leaves all keys as they are.
-/

namespace FormPublisher

/-! ### Keys -/

/-- Keys that differ, of which the decimals are doubles. -/
structure AreProperKeys (ks : List Scalar) : Prop where
  distinct : ks.Pairwise fun k k' => k.sameKey k' = false
  isDouble : ∀ k ∈ ks, k.IsDouble

namespace AreProperKeys

variable {ks others : List Scalar}

theorem nil : AreProperKeys [] := ⟨List.Pairwise.nil, List.forall_mem_nil _⟩

theorem sublist (h : AreProperKeys ks) (hsub : others.Sublist ks) : AreProperKeys others :=
  ⟨h.distinct.sublist hsub, fun k hk => h.isDouble k (hsub.subset hk)⟩

/-- A key may be added if it is none of those that are there. -/
theorem concat (h : AreProperKeys ks) {k : Scalar} (hk : k.IsDouble)
    (hnew : ∀ k' ∈ ks, k'.sameKey k = false) : AreProperKeys (ks ++ [k]) :=
  ⟨Entries.pairwise_sameKey_concat h.distinct hnew,
    List.forall_mem_append.mpr ⟨h.isDouble, List.forall_mem_singleton.mpr hk⟩⟩

end AreProperKeys

/-! ### The values -/

mutual

/-- Whether the keys of every mapping in a value are as they should be. -/
def Value.IsProper : Value → Prop
  | .list items => areProper items
  | .pair a b => a.IsProper ∧ b.IsProper
  | .map entries => AreProperKeys (Entries.keys entries) ∧ areProperEntries entries
  | .set members => AreProperKeys members
  | .knot _ v => v.IsProper
  | .scalar _ | .back _ _ => True

/-- Whether all items of a list are proper. -/
def areProper : List Value → Prop
  | [] => True
  | v :: vs => v.IsProper ∧ areProper vs

/-- Whether the values of all entries are proper. -/
def areProperEntries : List (Scalar × Value) → Prop
  | [] => True
  | (_, v) :: es => v.IsProper ∧ areProperEntries es

end

theorem areProper_iff {vs : List Value} : areProper vs ↔ ∀ v ∈ vs, v.IsProper := by
  induction vs with
  | nil => simp [areProper]
  | cons v vs ih => rw [areProper, ih, List.forall_mem_cons]

theorem areProperEntries_iff {es : Entries} :
    areProperEntries es ↔ ∀ e ∈ es, e.2.IsProper := by
  induction es with
  | nil => simp [areProperEntries]
  | cons e es ih => rw [areProperEntries, ih, List.forall_mem_cons]

/-! ### Opening -/

/-- Opening leaves the keys as they are. -/
theorem keys_replaceBackEntries (label : Nat) (whole : Value) (es : Entries) :
    Entries.keys (replaceBackEntries label whole es) = es.keys := by
  induction es with
  | nil => rfl
  | cons e es ih => exact congrArg (e.1 :: ·) ih

section Opening

variable {label : Nat} {whole : Value}

mutual

theorem Value.IsProper.replaceBack {v : Value} (hv : v.IsProper) (hwhole : whole.IsProper) :
    (Value.replaceBack label whole v).IsProper := by
  cases v with
  | scalar s | set members =>
    rw [Value.replaceBack]
    · exact hv
    all_goals simp
  | list items =>
    rw [Value.replaceBack]
    exact areProper_replaceBackItems hv hwhole
  | pair a b =>
    rw [Value.replaceBack]
    exact ⟨hv.1.replaceBack hwhole, hv.2.replaceBack hwhole⟩
  | map entries =>
    rw [Value.replaceBack]
    rw [Value.IsProper, keys_replaceBackEntries]
    exact ⟨hv.1, areProperEntries_replaceBackEntries hv.2 hwhole⟩
  | knot l v =>
    -- A knot of the same label inside is left alone: its ways back lead to itself.
    rw [Value.replaceBack]
    rw [Value.IsProper] at hv ⊢
    split
    · exact hv
    · exact hv.replaceBack hwhole
  | back l kind =>
    rw [Value.replaceBack]
    split
    · exact hwhole
    · trivial

theorem areProper_replaceBackItems {vs : List Value} (hvs : areProper vs)
    (hwhole : whole.IsProper) : areProper (replaceBackItems label whole vs) := by
  cases vs with
  | nil => trivial
  | cons v vs => exact ⟨hvs.1.replaceBack hwhole, areProper_replaceBackItems hvs.2 hwhole⟩

theorem areProperEntries_replaceBackEntries {es : Entries} (hes : areProperEntries es)
    (hwhole : whole.IsProper) : areProperEntries (replaceBackEntries label whole es) := by
  cases es with
  | nil => trivial
  | cons e es =>
    exact ⟨hes.1.replaceBack hwhole, areProperEntries_replaceBackEntries hes.2 hwhole⟩

end

end Opening

namespace Value

variable {v w : Value} {es : Entries}

theorem IsProper.opened (h : v.IsProper) : v.opened.IsProper := by
  unfold Value.opened
  split
  case h_1 label v =>
    -- A knot is proper if its value is, and the knot itself takes the place of the ways back.
    have hv : v.IsProper := h
    exact hv.replaceBack h
  case h_2 => exact h

/-! ### Parts -/

/-- The mapping that a value opens to is proper, and so are the values in it. -/
theorem IsProper.entries (h : v.IsProper) (hes : v.opened = .map es) :
    AreProperKeys es.keys ∧ ∀ e ∈ es, e.2.IsProper := by
  have hopened := h.opened
  rw [hes] at hopened
  exact ⟨hopened.1, areProperEntries_iff.mp hopened.2⟩

/-- The items of the list that a value opens to are proper. -/
theorem IsProper.items (h : v.IsProper) {items : List Value} (hitems : v.opened = .list items) :
    ∀ w ∈ items, w.IsProper := by
  have hopened := h.opened
  rw [hitems] at hopened
  exact areProper_iff.mp hopened

end Value

/-- What is found under the keys of a mapping is proper. -/
theorem Entries.isProper_get {es : Entries} (hes : ∀ e ∈ es, e.2.IsProper) (key : String) :
    (es.get key).IsProper := by
  unfold get
  cases h : es.get? key with
  | none => trivial
  | some v => exact hes _ (get?_mem h)

/-! ### JSON values -/

theorem Scalar.isDouble_of_isJsonKey {k : Scalar} (h : k.isJsonKey) : k.IsDouble := by
  cases k with
  | float x => cases h
  | _ => trivial

/-- The keys of a JSON object are proper. -/
theorem areProperKeys_of_areJsonEntries {es : Entries} (h : areJsonEntries es) :
    AreProperKeys es.keys := by
  obtain ⟨hmembers, hnodup⟩ := areJsonEntries_iff.mp h
  have hkeys : ∀ k ∈ es.keys, k.isJsonKey := by
    intro k hk
    obtain ⟨e, he, rfl⟩ := List.mem_map.mp hk
    exact (hmembers e he).1
  refine ⟨?_, fun k hk => Scalar.isDouble_of_isJsonKey (hkeys k hk)⟩
  refine List.Pairwise.imp_of_mem (fun ha hb hne => ?_) hnodup
  rw [Scalar.sameKey_of_isJsonKey (hkeys _ ha) (hkeys _ hb)]
  exact beq_eq_false_iff_ne.mpr hne

mutual

theorem Value.isProper_of_isJson {v : Value} (h : v.isJson) : v.IsProper := by
  cases v with
  | scalar s => trivial
  | list items => exact areProper_of_areJson h
  | map entries =>
    exact ⟨areProperKeys_of_areJsonEntries h, areProperEntries_of_areJsonEntries h⟩
  | pair _ _ | set _ | knot _ _ | back _ _ => simp [Value.isJson] at h

theorem areProper_of_areJson {vs : List Value} (h : areJson vs) : areProper vs := by
  cases vs with
  | nil => trivial
  | cons v vs =>
    simp only [areJson, Bool.and_eq_true] at h
    exact ⟨Value.isProper_of_isJson h.1, areProper_of_areJson h.2⟩

theorem areProperEntries_of_areJsonEntries {es : Entries} (h : areJsonEntries es) :
    areProperEntries es := by
  cases es with
  | nil => trivial
  | cons e es =>
    obtain ⟨⟨-, hv⟩, -, hes⟩ := areJsonEntries_cons_iff.mp h
    exact ⟨Value.isProper_of_isJson hv, areProperEntries_of_areJsonEntries hes⟩

end

end FormPublisher
