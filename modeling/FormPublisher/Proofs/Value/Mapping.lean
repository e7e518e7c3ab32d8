import FormPublisher.Value
import Mathlib.Data.List.Induction

/-!
# Mappings

The keys of a mapping differ, and one finds a value in it by any scalar (`Entries.find?`).  Writing
another mapping over it (`Entries.update`) puts the keys that are new behind the others, in the order
of that mapping, and a key of both has the value of the second, if the first mapping has text keys
only (`keys_update`, `find?_update`).

Only a text is the same key as a text, and whether other scalars are the same key need not be looked
into: those of the second mapping differ from each other and from all texts.
-/

namespace FormPublisher

/-! ### Keys -/

/-- Whether a key is found when another is looked up.  A thing that is not the same as itself, like
the number that is no number, is still found under itself. -/
def Scalar.finds (k key : Scalar) : Bool := k == key || k.sameKey key

theorem Scalar.finds_text (k : Scalar) (s : String) : k.finds (.text s) = (k == .text s) := by
  rw [finds, Entries.sameKey_text, Bool.or_self]

theorem Scalar.text_sameKey (s : String) (k : Scalar) :
    (Scalar.text s).sameKey k = (Scalar.text s == k) := by
  cases k <;> simp [sameKey, number?]

theorem Scalar.text_finds (s : String) (k : Scalar) :
    (Scalar.text s).finds k = (Scalar.text s == k) := by
  rw [finds, text_sameKey, Bool.or_self]

namespace Entries

/-- The keys in their order. -/
def keys (es : Entries) : List Scalar := es.map Prod.fst

/-- Whether there is an entry under a key. -/
def has (key : Scalar) (es : Entries) : Bool := es.keys.any fun k => k.sameKey key

/-- The value under a key. -/
def find? (key : Scalar) (es : Entries) : Option Value :=
  (List.find? (fun e => e.1.finds key) es).map Prod.snd

/-- No two entries are under the same key. -/
def HasDistinctKeys (es : Entries) : Prop := es.keys.Pairwise fun k k' => k.sameKey k' = false

/-- All entries are under texts. -/
def HasTextKeys (es : Entries) : Prop := ∀ k ∈ es.keys, ∃ s, k = .text s

variable {key : Scalar} {v : Value} {es others : Entries}

theorem keys_append (es others : Entries) : keys (es ++ others) = es.keys ++ others.keys :=
  List.map_append

theorem has_cons (key : Scalar) (e : Scalar × Value) (es : Entries) :
    has key (e :: es) = (e.1.sameKey key || has key es) := rfl

theorem find?_cons (key : Scalar) (e : Scalar × Value) (es : Entries) :
    find? key (e :: es) = if e.1.finds key then some e.2 else es.find? key := by
  unfold find?
  rw [List.find?_cons]
  cases e.1.finds key <;> rfl

theorem find?_append (key : Scalar) (es others : Entries) :
    find? key (es ++ others) = (es.find? key).or (others.find? key) := by
  unfold find?
  rw [List.find?_append, Option.map_or]

/-- Nothing is found under a text that is not there. -/
theorem find?_text_of_has_eq_false {s : String} (h : es.has (.text s) = false) :
    es.find? (.text s) = none := by
  induction es with
  | nil => rfl
  | cons e es ih =>
    rw [has_cons, Bool.or_eq_false_iff, sameKey_text] at h
    rw [find?_cons, Scalar.finds_text, h.1, ih h.2, if_neg Bool.false_ne_true]

/-- In a mapping of texts nothing is found under other keys. -/
theorem HasTextKeys.find?_eq_none (hes : es.HasTextKeys) (hkey : ∀ s, key ≠ .text s) :
    es.find? key = none := by
  unfold find?
  rw [Option.map_eq_none_iff, List.find?_eq_none]
  intro e he
  obtain ⟨s, hs⟩ := hes e.1 (List.mem_map_of_mem he)
  rw [hs, Scalar.text_finds, beq_iff_eq]
  exact (hkey s).symm

theorem HasTextKeys.has_iff (hes : es.HasTextKeys) : has key es ↔ key ∈ es.keys := by
  rw [has, List.any_eq_true]
  constructor
  · rintro ⟨k, hk, hsame⟩
    obtain ⟨s, rfl⟩ := hes k hk
    rw [Scalar.text_sameKey, beq_iff_eq] at hsame
    exact hsame ▸ hk
  · intro hkey
    obtain ⟨s, rfl⟩ := hes key hkey
    exact ⟨_, hkey, by rw [sameKey_text, beq_self_eq_true]⟩

theorem has_text_iff {s : String} : has (.text s) es ↔ .text s ∈ es.keys := by
  simp [has, sameKey_text]

/-! ### Writing one entry -/

/-- A key that is there keeps its place, and a new one goes to the end. -/
theorem keys_put (key : Scalar) (v : Value) (es : Entries) :
    (put key v es).keys = if es.has key then es.keys else es.keys ++ [key] := by
  induction es with
  | nil => rfl
  | cons e es ih =>
    obtain ⟨k, w⟩ := e
    rw [put, has_cons]
    by_cases hk : k.sameKey key
    · rw [if_pos hk, hk, Bool.true_or, if_pos rfl]
      rfl
    · have hcons : keys ((k, w) :: put key v es) = k :: (put key v es).keys := rfl
      rw [if_neg hk, Bool.eq_false_iff.mpr hk, Bool.false_or, hcons, ih]
      split <;> rfl

/-- An entry under a new key goes to the end. -/
theorem put_of_has_eq_false (v : Value) (h : es.has key = false) :
    put key v es = es ++ [(key, v)] := by
  induction es with
  | nil => rfl
  | cons e es ih =>
    obtain ⟨k, w⟩ := e
    rw [has_cons, Bool.or_eq_false_iff] at h
    rw [put, h.1, if_neg Bool.false_ne_true, ih h.2, List.cons_append]

/-- What is found after an entry was written under a text. -/
theorem find?_put_text (key : Scalar) (s : String) (v : Value) (es : Entries) :
    find? key (put (.text s) v es) = if key = .text s then some v else es.find? key := by
  induction es with
  | nil =>
    rw [put, find?_cons, Scalar.text_finds]
    simp only [beq_iff_eq, eq_comm (a := key)]
  | cons e es ih =>
    obtain ⟨k, w⟩ := e
    rw [put, sameKey_text]
    by_cases hk : k = .text s
    · subst hk
      rw [beq_self_eq_true, if_pos rfl, find?_cons, find?_cons, Scalar.text_finds]
      by_cases hkey : key = .text s
      · simp [hkey]
      · simp [hkey, Ne.symm hkey]
    · rw [beq_eq_false_iff_ne.mpr hk, if_neg Bool.false_ne_true, find?_cons, find?_cons, ih]
      by_cases hkey : key = .text s
      · simp [hkey, Scalar.finds_text, hk]
      · simp only [if_neg hkey]

/-- A key that is none of those that are there may be added to them. -/
theorem pairwise_sameKey_concat {ks : List Scalar}
    (h : ks.Pairwise fun k k' => k.sameKey k' = false)
    (hnew : ∀ k ∈ ks, k.sameKey key = false) :
    (ks ++ [key]).Pairwise fun k k' => k.sameKey k' = false := by
  refine List.pairwise_append.mpr ⟨h, List.pairwise_singleton _ _, fun k hk k' hk' => ?_⟩
  rw [List.mem_singleton.mp hk']
  exact hnew k hk

theorem HasDistinctKeys.put (h : es.HasDistinctKeys) (key : Scalar) (v : Value) :
    (put key v es).HasDistinctKeys := by
  unfold HasDistinctKeys
  rw [keys_put]
  split
  case isTrue => exact h
  case isFalse hnew =>
    rw [has, List.any_eq_true, not_exists] at hnew
    exact pairwise_sameKey_concat h fun k hk =>
      Bool.eq_false_iff.mpr fun hsame => hnew k ⟨hk, hsame⟩

/-! ### Writing one mapping after another -/

theorem update_concat (es others : Entries) (e : Scalar × Value) :
    update es (others ++ [e]) = put e.1 e.2 (update es others) := by
  unfold update
  rw [List.foldl_append]
  rfl

theorem HasDistinctKeys.update (h : es.HasDistinctKeys) (others : Entries) :
    (update es others).HasDistinctKeys := by
  induction others using List.reverseRecOn with
  | nil => exact h
  | append_singleton others e ih =>
    rw [update_concat]
    exact ih.put e.1 e.2

/-- The last key of a mapping is none of those before it. -/
theorem HasDistinctKeys.has_eq_false {e : Scalar × Value} (h : HasDistinctKeys (others ++ [e])) :
    others.has e.1 = false := by
  rw [HasDistinctKeys, keys_append] at h
  obtain ⟨-, -, hlast⟩ := List.pairwise_append.mp h
  rw [has, List.any_eq_false]
  exact fun k hk => Bool.not_eq_true _ ▸ hlast k hk e.1 (List.mem_singleton.mpr rfl)

theorem HasDistinctKeys.init {e : Scalar × Value} (h : HasDistinctKeys (others ++ [e])) :
    others.HasDistinctKeys := by
  rw [HasDistinctKeys, keys_append] at h
  exact (List.pairwise_append.mp h).1

/-- A key that is not in the second of two mappings is among keys of both only if it is in the
first. -/
theorem has_of_keys_eq {m : Entries} {p : Scalar → Bool}
    (hm : m.keys = es.keys ++ others.keys.filter p) (hnew : has key others = false) :
    has key m = has key es := by
  have hnone : (others.keys.filter p).any (fun k => k.sameKey key) = false :=
    List.any_eq_false.mpr fun k hk => List.any_eq_false.mp hnew k (List.mem_filter.mp hk).1
  rw [has, hm, List.any_append, hnone, Bool.or_false]
  rfl

/-- The keys that are new stand behind the others. -/
theorem keys_update (es : Entries) (h : others.HasDistinctKeys) :
    (update es others).keys = es.keys ++ others.keys.filter fun k => !has k es := by
  -- The last entry is written over a mapping that has the keys of all entries before it.
  induction others using List.reverseRecOn with
  | nil => exact (List.append_nil _).symm
  | append_singleton others e ih =>
    have hkeys := ih h.init
    have hhas := has_of_keys_eq hkeys h.has_eq_false
    have hlast : keys [e] = [e.1] := rfl
    rw [update_concat, keys_put, hhas, hkeys, keys_append, List.filter_append, hlast,
      ← List.append_assoc]
    cases hes : has e.1 es <;> simp [hes]

/-- A mapping whose keys are all new is put behind the other as it is. -/
theorem update_of_hasDistinctKeys_append (h : HasDistinctKeys (es ++ others)) :
    update es others = es ++ others := by
  induction others using List.reverseRecOn with
  | nil => exact (List.append_nil es).symm
  | append_singleton others e ih =>
    rw [← List.append_assoc] at h
    have hupdate : update es others = es ++ others := ih h.init
    rw [update_concat, hupdate, put_of_has_eq_false e.2 h.has_eq_false, List.append_assoc]

/-- Texts that differ are different keys. -/
theorem hasDistinctKeys_of_nodup {names : List String} (hkeys : es.keys = names.map .text)
    (h : names.Nodup) : es.HasDistinctKeys := by
  rw [HasDistinctKeys, hkeys, List.pairwise_map]
  refine h.imp fun {a b} hne => ?_
  rw [sameKey_text, beq_eq_false_iff_ne]
  exact fun heq => hne (Scalar.text.inj heq)

/-- A key of both mappings has the value of the second. -/
theorem find?_update (hes : es.HasTextKeys) (h : others.HasDistinctKeys) (key : Scalar) :
    (update es others).find? key = (others.find? key).or (es.find? key) := by
  induction others using List.reverseRecOn with
  | nil => rfl
  | append_singleton others e ih =>
    obtain ⟨k, v⟩ := e
    have hlast : find? key [(k, v)] = if k.finds key then some v else none := find?_cons _ _ _
    have hold : has k others = false := h.has_eq_false
    rw [update_concat, find?_append, hlast]
    by_cases hk : ∃ s, k = .text s
    · obtain ⟨s, rfl⟩ := hk
      rw [find?_put_text, ih h.init, Scalar.text_finds]
      by_cases hkey : key = .text s
      · simp [hkey, find?_text_of_has_eq_false hold]
      · simp [hkey, Ne.symm hkey]
    · -- A key that is no text is new in `es`, and it is new in `others` because their keys differ.
      have hkt : ∀ s, k ≠ .text s := fun s hs => hk ⟨s, hs⟩
      have hnew : has k (update es others) = false := by
        rw [has_of_keys_eq (keys_update es h.init) hold, Bool.eq_false_iff, ne_eq, hes.has_iff]
        exact fun hmem => hk (hes k hmem)
      rw [put_of_has_eq_false v hnew, find?_append, hlast, ih h.init]
      -- Under a text there is nothing in the new entry, and under anything else nothing in `es`.
      by_cases hkey : ∃ s, key = .text s
      · obtain ⟨s, rfl⟩ := hkey
        simp [Scalar.finds_text, hkt s]
      · simp [hes.find?_eq_none fun s hs => hkey ⟨s, hs⟩]

end Entries

end FormPublisher
