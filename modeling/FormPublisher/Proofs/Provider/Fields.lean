import FormPublisher.Proofs.Outcome
import FormPublisher.Proofs.Value.Proper
import FormPublisher.Provider.Call
import FormPublisher.Yaml.Meaning

/-!
# Form fields

The fields of a group are as many as the keys of the mapping, and each has its own value, exactly
when no two of the keys look alike (`formFields_keep`): the keys of a mapping differ, but they stand
in the names of fields by what is written for them.  Only a text looks like another key, if it is
what is written for that, and a number that is no number looks like any other of them
(`Scalar.spelled_eq_iff`).  So a mapping with text keys, as it comes from JSON, loses nothing.  All
this is said of proper keys, and the keys of every mapping that was read are proper
(`Value.IsProper`).

Of keys that look alike the first gives the place and the last the value.
-/

namespace FormPublisher

/-! ### Keys that look alike -/

namespace Scalar

/-- Whether two keys are written alike: one is a text and it is written for the other, or both are a
number that is no number. -/
def looksLike : Scalar → Scalar → Bool
  | .text _, .text _ => false
  | .text s, b => b.kind ≠ .text && b.display == s
  | a, .text s => a.kind ≠ .text && a.display == s
  | a, b => a == .float .nan && b == .float .nan

/-- What is written for a key, if it can be written. -/
def spelled : Scalar → Scalar
  | .torn points => .torn points
  | key => .text key.display

theorem spelling_eq_ok {k : Scalar} (h : k.isWritable) : k.spelling = .ok k.spelled := by
  have hrender : k.render = .ok k.display := if_pos h
  cases k with
  | torn points => rfl
  | _ => exact congrArg (text <$> ·) hrender

/-- A key is shown like what is written for it. -/
theorem display_spelled (k : Scalar) : k.spelled.display = k.display := by
  cases k <;> rfl

/-- A text is written as it is. -/
theorem spelled_of_kind_text {k : Scalar} (h : k.kind = .text) : k.spelled = k := by
  cases k with
  | text _ | torn _ => rfl
  | _ => cases h

/-- Another scalar is written as a text. -/
theorem spelled_of_kind_ne_text {k : Scalar} (h : k.kind ≠ .text) :
    k.spelled = .text k.display := by
  cases k with
  | torn _ => exact absurd rfl h
  | _ => rfl

/-- Texts never look alike. -/
theorem looksLike_of_kind_text {a b : Scalar} (ha : a.kind = .text) (hb : b.kind = .text) :
    a.looksLike b = false := by
  cases a with
  | text _ | torn _ =>
    cases b with
    | text _ | torn _ => rfl
    | _ => cases hb
  | _ => cases ha

/-- Of other scalars only numbers that are no numbers look alike. -/
theorem looksLike_of_kind_ne_text {a b : Scalar} (ha : a.kind ≠ .text) (hb : b.kind ≠ .text) :
    a.looksLike b = (a == .float .nan && b == .float .nan) := by
  cases a <;> first
    | exact absurd rfl ha
    | cases b <;> first | exact absurd rfl hb | rfl

/-- A text looks like the other scalar that it is written for. -/
theorem looksLike_iff_of_kind_text {a b : Scalar} (ha : a.kind = .text) (hb : b.kind ≠ .text) :
    (a.looksLike b ↔ a = .text b.display) ∧ (b.looksLike a ↔ a = .text b.display) := by
  have htext : ∀ s, (b.display == s) = true ↔ text s = text b.display := fun s => by
    rw [beq_iff_eq, text.injEq, eq_comm]
  cases a with
  | text s =>
    cases b with
    | text _ | torn _ => exact absurd rfl hb
    | _ => exact ⟨htext s, htext s⟩
  | torn points =>
    have htorn : ∀ s, torn points ≠ text s := fun s h => nomatch h
    cases b with
    | text _ | torn _ => exact absurd rfl hb
    | _ => exact ⟨iff_of_false Bool.false_ne_true (htorn _),
        iff_of_false (by simp [looksLike]) (htorn _)⟩
  | _ => cases ha

/-- Two keys of a mapping are written alike exactly when they look alike. -/
theorem spelled_eq_iff {a b : Scalar} (hadouble : a.IsDouble) (hbdouble : b.IsDouble)
    (hdistinct : a.sameKey b = false) : a.spelled = b.spelled ↔ a.looksLike b := by
  have hnan : a = b → a = .float .nan := by
    rintro rfl
    by_contra hne
    rw [sameKey_self hne] at hdistinct
    cases hdistinct
  by_cases ha : a.kind = .text <;> by_cases hb : b.kind = .text
  · rw [spelled_of_kind_text ha, spelled_of_kind_text hb, looksLike_of_kind_text ha hb]
    refine iff_of_false (fun h => ?_) Bool.false_ne_true
    rw [hnan h] at ha
    cases ha
  · rw [spelled_of_kind_text ha, spelled_of_kind_ne_text hb, (looksLike_iff_of_kind_text ha hb).1]
  · rw [spelled_of_kind_ne_text ha, spelled_of_kind_text hb, (looksLike_iff_of_kind_text hb ha).2,
      eq_comm]
  · rw [spelled_of_kind_ne_text ha, spelled_of_kind_ne_text hb, looksLike_of_kind_ne_text ha hb,
      Bool.and_eq_true, beq_iff_eq, beq_iff_eq, text.injEq]
    constructor
    · intro h
      have hab := eq_of_display_eq ha hb hadouble hbdouble h
      exact ⟨hnan hab, hab ▸ hnan hab⟩
    · rintro ⟨rfl, rfl⟩
      rfl

end Scalar

/-! ### Writing fields one by one -/

section Fields

variable {key : Scalar} {text : String} {fs : List (Scalar × String)}

/-- Fields that are written one after another. -/
def putFields (fs : List (Scalar × String)) : List (Scalar × String) :=
  fs.foldl (fun fields f => putField f.1 f.2 fields) []

theorem putFields_concat (fs : List (Scalar × String)) (f : Scalar × String) :
    putFields (fs ++ [f]) = putField f.1 f.2 (putFields fs) := by
  rw [putFields, List.foldl_append]
  rfl

/-- A field with a new key goes to the end. -/
theorem putField_of_not_mem (h : key ∉ fs.map Prod.fst) :
    putField key text fs = fs ++ [(key, text)] := by
  induction fs with
  | nil => rfl
  | cons f fs ih =>
    rw [List.map_cons, List.mem_cons, not_or] at h
    rw [putField, if_neg (Ne.symm h.1), ih h.2]
    rfl

/-- A field with a key that is there keeps its place. -/
theorem keys_putField_of_mem (h : key ∈ fs.map Prod.fst) :
    (putField key text fs).map Prod.fst = fs.map Prod.fst := by
  induction fs with
  | nil => cases h
  | cons f fs ih =>
    rw [putField]
    split
    · rfl
    case isFalse hne =>
      rw [List.map_cons, List.map_cons, ih ((List.mem_cons.mp h).resolve_left (Ne.symm hne))]

/-- Every key is written once. -/
theorem nodup_keys_putFields (fs : List (Scalar × String)) :
    ((putFields fs).map Prod.fst).Nodup ∧ (putFields fs).map Prod.fst ⊆ fs.map Prod.fst := by
  induction fs using List.reverseRecOn with
  | nil => exact ⟨List.nodup_nil, List.Subset.refl _⟩
  | append_singleton fs f ih =>
    obtain ⟨hnodup, hsubset⟩ := ih
    rw [putFields_concat, List.map_append]
    by_cases hmem : f.1 ∈ (putFields fs).map Prod.fst
    · rw [keys_putField_of_mem hmem]
      exact ⟨hnodup, fun k hk => List.mem_append_left _ (hsubset hk)⟩
    · rw [putField_of_not_mem hmem, List.map_append]
      refine ⟨?_, List.append_subset.mpr ⟨?_, ?_⟩⟩
      · have hconcat := hnodup.concat hmem
        rwa [List.concat_eq_append] at hconcat
      · exact fun k hk => List.mem_append_left _ (hsubset hk)
      · exact fun k hk => List.mem_append_right _ hk

/-- Fields with different keys are all kept. -/
theorem putFields_of_nodup (h : (fs.map Prod.fst).Nodup) : putFields fs = fs := by
  induction fs using List.reverseRecOn with
  | nil => rfl
  | append_singleton fs f ih =>
    rw [List.map_append, List.nodup_append] at h
    obtain ⟨hnodup, -, hnew⟩ := h
    rw [putFields_concat, ih hnodup, putField_of_not_mem]
    intro hmem
    exact hnew _ hmem f.1 List.mem_cons_self rfl

/-- No more fields are there than were written. -/
theorem length_putFields_le (fs : List (Scalar × String)) :
    (putFields fs).length ≤ fs.length := by
  obtain ⟨hnodup, hsubset⟩ := nodup_keys_putFields fs
  simpa using (hnodup.subperm hsubset).length_le

/-- As many fields are there as were written exactly when their keys differ. -/
theorem length_putFields_eq_iff (fs : List (Scalar × String)) :
    (putFields fs).length = fs.length ↔ (fs.map Prod.fst).Nodup := by
  constructor
  · intro h
    obtain ⟨hnodup, hsubset⟩ := nodup_keys_putFields fs
    have hperm : ((putFields fs).map Prod.fst).Perm (fs.map Prod.fst) :=
      (hnodup.subperm hsubset).perm_of_length_le (by simp [h])
    exact hperm.nodup_iff.mp hnodup
  · intro h
    rw [putFields_of_nodup h]

/-- A field is there with the value that it was written with. -/
theorem mem_putField_self (fs : List (Scalar × String)) : (key, text) ∈ putField key text fs := by
  induction fs with
  | nil => exact List.mem_singleton_self _
  | cons f fs ih =>
    rw [putField]
    split
    case isTrue h => exact h ▸ List.mem_cons_self
    case isFalse => exact List.mem_cons_of_mem _ ih

/-- A field with another key stays. -/
theorem mem_putField_of_ne {f : Scalar × String} (hf : f ∈ fs) (hne : f.1 ≠ key) :
    f ∈ putField key text fs := by
  induction fs with
  | nil => cases hf
  | cons g fs ih =>
    rw [putField]
    rcases List.mem_cons.mp hf with rfl | hf
    · rw [if_neg hne]
      exact List.mem_cons_self
    · split
      · exact List.mem_cons_of_mem _ hf
      · exact List.mem_cons_of_mem _ (ih hf)

/-- A field stays as it was written unless one with its key comes after it. -/
theorem mem_putFields {f : Scalar × String} {before after : List (Scalar × String)}
    (h : f.1 ∉ after.map Prod.fst) : f ∈ putFields (before ++ f :: after) := by
  induction after using List.reverseRecOn with
  | nil =>
    rw [putFields_concat]
    exact mem_putField_self _
  | append_singleton after g ih =>
    rw [List.map_append, List.mem_append, not_or] at h
    rw [← List.cons_append, ← List.append_assoc, putFields_concat]
    exact mem_putField_of_ne (ih h.1) fun hkey => h.2 (hkey ▸ List.mem_singleton_self _)

end Fields

/-! ### The fields of a mapping -/

/-- All keys and values can be written in a form. -/
def Entries.IsRenderable (es : Entries) : Prop :=
  ∀ e ∈ es, e.1.isWritable ∧ ∃ t, formValue e.2 = .ok t

/-- The text of a value as a field of a form, if it has one. -/
def fieldText (v : Value) : String :=
  match formValue v with
  | .ok t => t
  | .error _ => ""

theorem formValue_eq_ok {v : Value} (h : ∃ t, formValue v = .ok t) :
    formValue v = .ok (fieldText v) := by
  obtain ⟨t, ht⟩ := h
  rw [fieldText, ht]

/-- What is written for an entry. -/
def spelledField (e : Scalar × Value) : Scalar × String := (e.1.spelled, fieldText e.2)

/-- The fields of a mapping are those of its entries, written one after another. -/
theorem formFields_eq (group : String) {es : Entries} (h : es.IsRenderable) :
    formFields group es =
      .ok ((putFields (es.map spelledField)).map fun f => (fieldName group f.1, f.2)) := by
  have hfield : ∀ e ∈ es, formField e = .ok (spelledField e) := by
    intro e he
    obtain ⟨hkey, hvalue⟩ := h e he
    rw [formField, Scalar.spelling_eq_ok hkey, ok_bind, formValue_eq_ok hvalue]
    rfl
  have hall : es.mapM formField = .ok (es.map spelledField) :=
    mapM_eq_ok_iff.mpr (List.forall₂_map_right_iff.mpr (List.forall₂_same.mpr hfield))
  rw [formFields, hall]
  rfl

/-- A field has the name of its key, spelled or not. -/
theorem fieldName_spelled (group : String) (k : Scalar) :
    fieldName group k.spelled = fieldName group k := by
  rw [fieldName, fieldName, Scalar.display_spelled]

section Mapping

variable {es : Entries}

/-- The keys of a mapping are written differently exactly when no two of them look alike. -/
theorem nodup_map_spelled_iff (hkeys : AreProperKeys es.keys) :
    (es.keys.map Scalar.spelled).Nodup ↔ es.keys.Pairwise fun a b => a.looksLike b = false := by
  rw [List.Nodup, List.pairwise_map]
  -- what holds of every two keys is used for each of them
  have hpairs : es.keys.Pairwise fun a b => (a.spelled ≠ b.spelled ↔ a.looksLike b = false) := by
    refine hkeys.distinct.imp_of_mem fun ha hb hab => ?_
    rw [ne_eq, Scalar.spelled_eq_iff (hkeys.isDouble _ ha) (hkeys.isDouble _ hb) hab,
      Bool.not_eq_true]
  constructor
  · intro h
    exact hpairs.imp₂ (fun _ _ hiff hne => hiff.mp hne) h
  · intro h
    exact hpairs.imp₂ (fun _ _ hiff hlooks => hiff.mpr hlooks) h

/-- A key is written differently from all keys behind it if none of them looks like it. -/
theorem spelled_ne_of_mem_after {before after : Entries} {e f : Scalar × Value}
    (hkeys : AreProperKeys (Entries.keys (before ++ e :: after)))
    (hlooks : ∀ k ∈ Entries.keys after, e.1.looksLike k = false) (hf : f ∈ after) :
    e.1.spelled ≠ f.1.spelled := by
  have happend : Entries.keys (before ++ e :: after) =
      Entries.keys before ++ e.1 :: Entries.keys after := List.map_append
  have hafter : AreProperKeys (e.1 :: Entries.keys after) :=
    hkeys.sublist (happend ▸ List.sublist_append_right _ _)
  have hkey : f.1 ∈ Entries.keys after := List.mem_map_of_mem hf
  have hdistinct := (List.pairwise_cons.mp hafter.distinct).1 f.1 hkey
  rw [ne_eq, Scalar.spelled_eq_iff (hafter.isDouble _ List.mem_cons_self)
    (hafter.isDouble _ (List.mem_cons_of_mem _ hkey)) hdistinct, hlooks _ hkey]
  exact Bool.false_ne_true

/-- The fields of a group are as many as the keys of the mapping and in their order, each with the
value of its key, unless two keys look alike, when there are fewer.  A value is lost only to one
under a later key that looks like its own, and texts never look alike. -/
theorem formFields_keep (group : String) {v : Value} (hv : v.opened = .map es)
    (hkeys : AreProperKeys es.keys) (hrender : es.IsRenderable) :
    ∃ fields, v.formFields group = .ok fields ∧
      ((es.keys.Pairwise fun a b => a.looksLike b = false) →
        List.Forall₂ (fun e f => f.1 = fieldName group e.1 ∧ formValue e.2 = .ok f.2) es fields) ∧
      (¬(es.keys.Pairwise fun a b => a.looksLike b = false) → fields.length < es.length) ∧
      (∀ before e after, es = before ++ e :: after →
        (∀ k ∈ Entries.keys after, e.1.looksLike k = false) →
        ∃ t, formValue e.2 = .ok t ∧ (fieldName group e.1, t) ∈ fields) ∧
      ((∀ k ∈ es.keys, k.kind = .text) → es.keys.Pairwise fun a b => a.looksLike b = false) := by
  -- The fields are all kept exactly when their keys differ, and these are the spelled keys.
  have hnames : (es.map spelledField).map Prod.fst = es.keys.map Scalar.spelled := by
    rw [Entries.keys, List.map_map, List.map_map]
    rfl
  have hnodup := nodup_map_spelled_iff hkeys
  rw [← hnames] at hnodup
  have hfields : v.formFields group =
      .ok ((putFields (es.map spelledField)).map fun f => (fieldName group f.1, f.2)) := by
    unfold Value.formFields
    rw [hv]
    exact formFields_eq group hrender
  refine ⟨_, hfields, ?_, ?_, ?_, ?_⟩
  · intro hlooks
    rw [putFields_of_nodup (hnodup.mpr hlooks), List.map_map, List.forall₂_map_right_iff,
      List.forall₂_same]
    exact fun e he => ⟨fieldName_spelled group e.1, formValue_eq_ok (hrender e he).2⟩
  · intro hlooks
    rw [List.length_map]
    have hle := (length_putFields_le (es.map spelledField))
    have hne := mt ((length_putFields_eq_iff _).trans hnodup).mp hlooks
    rw [List.length_map] at hle hne
    exact lt_of_le_of_ne hle hne
  · rintro before e after rfl hlooks
    have he : e ∈ before ++ e :: after := List.mem_append_right _ List.mem_cons_self
    refine ⟨fieldText e.2, formValue_eq_ok (hrender e he).2, ?_⟩
    have hkept : spelledField e ∈ putFields ((before ++ e :: after).map spelledField) := by
      rw [List.map_append, List.map_cons]
      refine mem_putFields fun hmem => ?_
      rw [List.map_map, List.mem_map] at hmem
      obtain ⟨f, hf, hspelled⟩ := hmem
      -- A later field that takes the place would have the same spelled key.
      exact spelled_ne_of_mem_after hkeys hlooks hf hspelled.symm
    have hmap := List.mem_map_of_mem (f := fun f => (fieldName group f.1, f.2)) hkept
    rwa [spelledField, fieldName_spelled] at hmap
  · intro htext
    exact hkeys.distinct.imp_of_mem fun ha hb _ =>
      Scalar.looksLike_of_kind_text (htext _ ha) (htext _ hb)

end Mapping

/-- A mapping with numbers, a truth value, a day and nothing for keys. -/
def fiveKinds : Entries :=
  [(.int 1, .text "a"), (.float (.finite false (2 ^ 52) (-51)), .text "b"), (.bool false, .null),
    (.date ⟨2024, 1, 31⟩, .list []), (.null, .int 5)]

theorem formFields_keep_of_five_kinds :
    ∃ fields, (Value.map fiveKinds).formFields "question" = .ok fields ∧ fields.length = 5 := by
  have hkeys : AreProperKeys fiveKinds.keys := ⟨by decide +kernel, by decide +kernel⟩
  have hrender : fiveKinds.IsRenderable := by
    have hwritable : ∀ e ∈ fiveKinds, e.1.isWritable := by decide +kernel
    intro e he
    refine ⟨hwritable e he, ?_⟩
    simp only [fiveKinds, List.mem_cons, List.not_mem_nil, or_false] at he
    rcases he with rfl | rfl | rfl | rfl | rfl
    · exact ⟨"a", rfl⟩
    · exact ⟨"b", rfl⟩
    · exact ⟨"", rfl⟩
    · exact ⟨"[]", by decide +kernel⟩
    · exact ⟨"5", by decide +kernel⟩
  have hlooks : fiveKinds.keys.Pairwise fun a b => a.looksLike b = false := by decide +kernel
  obtain ⟨fields, hfields, hkeep, -⟩ := formFields_keep "question"
    (rfl : (Value.map fiveKinds).opened = .map fiveKinds) hkeys hrender
  exact ⟨fields, hfields, (hkeep hlooks).length_eq.symm⟩

/-- A number and the text that is written for it are two keys of a mapping that can be read, but the
later one takes the field of the other; and there are no fields at all for a key that has too many
digits to be written. -/
theorem formFields_of_one_and_its_text :
    (Yaml.read "1: a\n\"1\": b" matches
      .ok (.map [(.int 1, .text "a"), (.text "1", .text "b")])) ∧
    (AreProperKeys [.int 1, .text "1"] ∧
      Entries.IsRenderable [(.int 1, .text "a"), (.text "1", .text "b")] ∧
      formFields "properties" [(.int 1, .text "a"), (.text "1", .text "b")] =
        .ok [("properties[1]", "b")]) ∧
    formFields "properties" [(.int (10 ^ 4300), .text "a")] = .error .tooManyDigits := by
  refine ⟨by decide +kernel, ⟨⟨by decide, by decide⟩, ?_, ?_⟩, ?_⟩
  · intro e he
    simp only [List.mem_cons, List.not_mem_nil, or_false] at he
    rcases he with rfl | rfl
    · exact ⟨by decide +kernel, "a", rfl⟩
    · exact ⟨rfl, "b", rfl⟩
  · decide +kernel
  · decide +kernel

end FormPublisher
