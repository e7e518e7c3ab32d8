import FormPublisher.Proofs.Json.RoundTrip

/-!
# Values with a JSON text

Not every value has a JSON text (`Value.HasText`): an integer may have too many digits, and bytes,
dates, times and sets have none.  A list has one exactly if all its items have, and an object
exactly if all its members have (`hasText_list_iff`, `hasText_object_iff`).
-/

namespace FormPublisher

theorem Json.scalarToken_int (n : Int) : scalarToken (.int n) =
    if Numeral.isWritable n then .ok (.atom (.int n)) else .error .tooManyDigits := rfl

/-- A value that can be written as JSON text. -/
def Value.HasText (v : Value) : Prop := ∃ text, Json.write .compact v = .ok text

namespace Value

theorem hasText_iff {v : Value} : v.HasText ↔ ∃ ts, Json.tokens true v = .ok ts := by
  have htokens : Json.tokens Json.Layout.compact.namesInFull v = Json.tokens true v := rfl
  unfold HasText Json.write
  rw [htokens]
  cases Json.tokens true v <;> simp

theorem hasText_text (s : String) : (text s).HasText := hasText_iff.mpr ⟨_, rfl⟩

theorem hasText_bool (b : Bool) : (bool b).HasText := hasText_iff.mpr ⟨_, rfl⟩

theorem hasText_int_iff {n : Int} : (int n).HasText ↔ Numeral.isWritable n := by
  rw [hasText_iff, Json.tokens, Json.scalarToken_int]
  cases Numeral.isWritable n <;> simp

/-- Two rows of tokens make a row exactly if there are both of them. -/
theorem exists_joined_iff {P Q : List Json.Token → Prop}
    {join : List Json.Token → List Json.Token → List Json.Token} :
    (∃ ts first rest, P first ∧ Q rest ∧ join first rest = ts) ↔
      (∃ first, P first) ∧ ∃ rest, Q rest :=
  ⟨fun ⟨_, first, rest, hfirst, hrest, _⟩ => ⟨⟨first, hfirst⟩, rest, hrest⟩,
    fun ⟨⟨first, hfirst⟩, rest, hrest⟩ => ⟨_, first, rest, hfirst, hrest, rfl⟩⟩

/-- The items after the first are written one by one. -/
theorem exists_itemTokens_iff {vs : List Value} :
    (∃ ts, Json.itemTokens true vs = .ok ts) ↔ ∀ v ∈ vs, v.HasText := by
  induction vs with
  | nil => exact ⟨fun _ => List.forall_mem_nil _, fun _ => ⟨_, rfl⟩⟩
  | cons v vs ih =>
    simp only [Json.itemTokens_cons_eq_ok_iff]
    rw [exists_joined_iff, ← hasText_iff, ih, List.forall_mem_cons]

theorem hasText_list_iff {vs : List Value} : (list vs).HasText ↔ ∀ v ∈ vs, v.HasText := by
  rw [hasText_iff]
  cases vs with
  | nil => exact ⟨fun _ => List.forall_mem_nil _, fun _ => ⟨_, rfl⟩⟩
  | cons v vs =>
    simp only [Json.tokens_list_cons_eq_ok_iff]
    rw [exists_joined_iff, ← hasText_iff, exists_itemTokens_iff, List.forall_mem_cons]

/-- The members after the first are written one by one. -/
theorem exists_memberTokens_iff {fields : List (String × Value)} :
    (∃ ts, Json.memberTokens true (fields.map fun f => (.text f.1, f.2)) = .ok ts) ↔
      ∀ f ∈ fields, f.2.HasText := by
  induction fields with
  | nil => exact ⟨fun _ => List.forall_mem_nil _, fun _ => ⟨_, rfl⟩⟩
  | cons f fields ih =>
    have hkey : (Scalar.text f.1).isJsonKey := rfl
    simp only [List.map_cons, Json.memberTokens_cons_eq_ok_iff hkey]
    rw [exists_joined_iff, ← hasText_iff, ih, List.forall_mem_cons]

theorem hasText_object_iff {fields : List (String × Value)} :
    (object fields).HasText ↔ ∀ f ∈ fields, f.2.HasText := by
  rw [hasText_iff]
  cases fields with
  | nil => exact ⟨fun _ => List.forall_mem_nil _, fun _ => ⟨_, rfl⟩⟩
  | cons f fields =>
    have hkey : (Scalar.text f.1).isJsonKey := rfl
    simp only [object, List.map_cons, Json.tokens_map_cons_eq_ok_iff hkey]
    rw [exists_joined_iff, ← hasText_iff, exists_memberTokens_iff, List.forall_mem_cons]

/-- Things that are put together with as many identifiers are written one by one. -/
theorem hasText_zipWith_iff {α : Type} {f : α → String → Value} {P : α → Prop}
    (hf : ∀ x id, (f x id).HasText ↔ P x) {xs : List α} {ids : List String}
    (hlength : ids.length = xs.length) :
    (list (List.zipWith f xs ids)).HasText ↔ ∀ x ∈ xs, P x := by
  rw [hasText_list_iff]
  induction xs generalizing ids with
  | nil => exact ⟨fun _ => List.forall_mem_nil _, fun _ => List.forall_mem_nil _⟩
  | cons x xs ih =>
    obtain ⟨id, rest, rfl⟩ := List.exists_cons_of_length_eq_add_one hlength
    rw [List.zipWith_cons_cons, List.forall_mem_cons, List.forall_mem_cons, hf,
      ih (Nat.succ.inj hlength)]

end Value

end FormPublisher
