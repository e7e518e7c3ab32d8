import FormPublisher.Form.Question
import Mathlib.Data.List.Forall2

/-!
# Numbering questions

Questions are numbered over the whole form, but what is said about them is said section by section.
`numberFrom start qs` is the numbering of the part of a form that has `start` questions before it,
so that a form can be taken apart.  Which positions a section has is told by the row of sections
alone (`positionsOf_eq_places`): `Section.places` finds a section in a row, and a section that
stands in one piece has a run of numbers (`places_replicate_self`).  Numbering changes nothing but
positions (`forall₂_ofSection_number`).
-/

namespace FormPublisher

/-! ### Places in a row of sections -/

namespace Section

/-- The positions at which a section stands in a row that has `start` questions before it. -/
def places (p : Section) (start : Nat) : List Section → List Int
  | [] => []
  | s :: row =>
    if s = p then ((start + 1 : Nat) : Int) :: places p (start + 1) row
    else places p (start + 1) row

@[simp] theorem places_nil (p : Section) (start : Nat) : places p start [] = [] := rfl

/-- The places in two rows one after the other. -/
theorem places_append (p : Section) (start : Nat) (as bs : List Section) :
    places p start (as ++ bs) = places p start as ++ places p (start + as.length) bs := by
  induction as generalizing start with
  | nil => rfl
  | cons s as ih =>
    have hlen : start + 1 + as.length = start + (s :: as).length := by
      rw [List.length_cons]
      omega
    simp only [List.cons_append, places, ih, hlen]
    split <;> rfl

/-- A section that stands in one piece has a run of places. -/
theorem places_replicate_self (p : Section) (start n : Nat) :
    places p start (List.replicate n p) =
      (List.range n).map fun i => ((start + i + 1 : Nat) : Int) := by
  induction n generalizing start with
  | zero => rfl
  | succ n ih =>
    rw [List.replicate_succ, places, if_pos rfl, ih, List.range_succ_eq_map, List.map_cons,
      List.map_map]
    congr 1
    refine List.map_congr_left fun i _ => ?_
    simp only [Function.comp, Nat.succ_eq_add_one]
    congr 1
    omega

/-- A section has no place among others. -/
theorem places_eq_nil {p : Section} {row : List Section} (h : p ∉ row) (start : Nat) :
    places p start row = [] := by
  induction row generalizing start with
  | nil => rfl
  | cons s row ih =>
    obtain ⟨hs, hrow⟩ := List.ne_and_not_mem_of_not_mem_cons h
    rw [places, if_neg (Ne.symm hs)]
    exact ih hrow (start + 1)

/-- The places of a section that stands in one piece between others. -/
theorem places_block {p : Section} {as bs : List Section} (ha : p ∉ as) (hb : p ∉ bs) (n : Nat) :
    places p 0 (as ++ List.replicate n p ++ bs) =
      (List.range n).map fun i => ((as.length + i + 1 : Nat) : Int) := by
  rw [places_append, places_append, places_eq_nil ha, places_replicate_self, places_eq_nil hb,
    Nat.zero_add, List.nil_append, List.append_nil]

end Section

/-! ### Numbering -/

namespace Question

/-- The questions of a section, in order. -/
def ofSection (part : Section) (qs : List Question) : List Question :=
  qs.filter fun q => q.part = part

/-- The questions numbered from the one after `start` on. -/
def numberFrom (start : Nat) (qs : List Question) : List Question :=
  qs.mapIdx fun i q => { q with position := (start + i : Nat) + 1 }

theorem number_eq_numberFrom (qs : List Question) : number qs = numberFrom 0 qs := by
  simp [number, numberFrom]

@[simp] theorem numberFrom_nil (start : Nat) : numberFrom start [] = [] := rfl

@[simp] theorem numberFrom_cons (start : Nat) (q : Question) (qs : List Question) :
    numberFrom start (q :: qs) =
      { q with position := (start : Int) + 1 } :: numberFrom (start + 1) qs := by
  simp [numberFrom, List.mapIdx_cons, Nat.add_assoc, Nat.add_comm 1]

/-- The question at an index has the number after it. -/
theorem position_getElem_number (qs : List Question) (i : Nat) (hi : i < (number qs).length) :
    (number qs)[i].position = i + 1 := by
  simp [number]

/-- Numbering leaves every question in its section. -/
theorem map_part_number (qs : List Question) : (number qs).map part = qs.map part := by
  rw [number_eq_numberFrom]
  -- The tail of a form is numbered from another start.
  generalize 0 = start
  induction qs generalizing start with
  | nil => rfl
  | cons q qs ih => rw [numberFrom_cons, List.map_cons, List.map_cons, ih]

/-- Questions that have their numbers already are left as they are. -/
theorem number_eq_self {qs : List Question}
    (h : ∀ (i : Nat) (hi : i < qs.length), qs[i].position = i + 1) : number qs = qs := by
  refine List.ext_getElem (by simp [number]) fun i _ hi => ?_
  simp [number, ← h i hi]

theorem positionsOf_numberFrom (p : Section) (start : Nat) (qs : List Question) :
    positionsOf p (numberFrom start qs) = Section.places p start (qs.map part) := by
  induction qs generalizing start with
  | nil => rfl
  | cons q qs ih =>
    have ih := ih (start + 1)
    unfold positionsOf at ih ⊢
    rw [numberFrom_cons, List.map_cons, Section.places]
    by_cases hq : q.part = p
    · rw [List.filter_cons_of_pos (by simpa using hq), List.map_cons, ih, if_pos hq]
      rfl
    · rw [List.filter_cons_of_neg (by simpa using hq), ih, if_neg hq]

/-- The row of sections of a numbered form tells the positions of each section. -/
theorem positionsOf_eq_places {qs : List Question}
    (h : ∀ (i : Nat) (hi : i < qs.length), qs[i].position = i + 1) (p : Section) :
    positionsOf p qs = Section.places p 0 (qs.map part) := by
  rw [← positionsOf_numberFrom, ← number_eq_numberFrom, number_eq_self h]

/-! ### Sections -/

theorem ofSection_append (p : Section) (as bs : List Question) :
    ofSection p (as ++ bs) = ofSection p as ++ ofSection p bs := by
  simp [ofSection]

/-- Of questions that are all of one section, another section has none. -/
theorem ofSection_eq_ite {s : Section} {qs : List Question} (h : ∀ q ∈ qs, q.part = s)
    (p : Section) : ofSection p qs = if p = s then qs else [] := by
  unfold ofSection
  by_cases hp : p = s
  · rw [if_pos hp, List.filter_eq_self]
    intro q hq
    simp [h q hq, hp]
  · rw [if_neg hp, List.filter_eq_nil_iff]
    intro q hq
    simp [h q hq, Ne.symm hp]

variable {f : Section → List Question}

/-- In a form that is written section by section, each section has the questions written for it. -/
theorem ofSection_flatMap (hf : ∀ s, ∀ q ∈ f s, q.part = s) {row : List Section}
    (hrow : row.Nodup) (p : Section) :
    ofSection p (row.flatMap f) = if p ∈ row then f p else [] := by
  induction row with
  | nil => rfl
  | cons s row ih =>
    obtain ⟨hs, hrow⟩ := List.nodup_cons.mp hrow
    rw [List.flatMap_cons, ofSection_append, ofSection_eq_ite (hf s), ih hrow]
    by_cases hp : p = s
    · subst hp
      simp [hs]
    · simp [hp]

/-- The row of sections of a form that is written section by section. -/
theorem map_part_flatMap (hf : ∀ s, ∀ q ∈ f s, q.part = s) (row : List Section) :
    (row.flatMap f).map part = row.flatMap fun s => List.replicate (f s).length s := by
  rw [List.map_flatMap]
  congr 1
  funext s
  rw [List.eq_replicate_iff, List.length_map]
  refine ⟨rfl, fun t ht => ?_⟩
  obtain ⟨q, hq, rfl⟩ := List.mem_map.mp ht
  exact hf s q hq

/-- What relates the questions of a section to a list, whatever their positions, still does when the
form is numbered. -/
theorem forall₂_ofSection_number {α : Type} {R : α → Question → Prop}
    (hR : ∀ a q n, R a q → R a { q with position := n }) {p : Section} {xs : List α}
    {qs : List Question} (h : List.Forall₂ R xs (ofSection p qs)) :
    List.Forall₂ R xs (ofSection p (number qs)) := by
  rw [number_eq_numberFrom]
  generalize 0 = start
  unfold ofSection at h ⊢
  induction qs generalizing start xs with
  | nil => exact h
  | cons q qs ih =>
    rw [numberFrom_cons]
    by_cases hq : q.part = p
    · rw [List.filter_cons_of_pos (by simpa using hq)] at h ⊢
      cases h with
      | cons hx hxs => exact .cons (hR _ _ _ hx) (ih hxs _)
    · -- A question of another section takes a number and nothing of the list.
      rw [List.filter_cons_of_neg (by simpa using hq)] at h ⊢
      exact ih h _

/-- What holds of all questions of a section, whatever their positions, still does when the form is
numbered. -/
theorem forall_ofSection_number {P : Question → Prop}
    (hP : ∀ q n, P q → P { q with position := n }) {p : Section} {qs : List Question}
    (h : ∀ q ∈ ofSection p qs, P q) : ∀ q ∈ ofSection p (number qs), P q := by
  intro q hq
  obtain ⟨hq, hp⟩ := List.mem_filter.mp hq
  obtain ⟨i, hi, rfl⟩ := List.mem_mapIdx.mp hq
  exact hP _ _ (h qs[i] (List.mem_filter.mpr ⟨List.getElem_mem hi, hp⟩))

end Question

end FormPublisher
