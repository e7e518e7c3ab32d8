import FormPublisher.Proofs.Form.Layout
import Mathlib

/-!
# What the condition of a form refers to

A condition names questions by their positions, written in decimal.  `Document.WantsCondition` says
when a form has one, and `Condition.Gates` what it is then: with `h` hidden fields and `e`
eligibility questions it tests `h + 2, …, h + 1 + e` and shows the `gatedCount` positions after
these.  Both runs are read off the row of sections (`positionsOf_eligibility`,
`gatedPositions_eq`), so no other part of the layout matters.
-/

namespace FormPublisher

/-! ### Positions of the tested and of the shown questions -/

namespace Document

/-- Whether a form has a condition: the feature is on, and there is something to test and something
to show. -/
def WantsCondition (d : Document) : Prop :=
  d.visibility.gatesPersonalInfo ∧ d.eligibilityQuestions ≠ [] ∧
    (d.legalTexts ≠ [] ∨ d.personalInfo.anySelected)

instance (d : Document) : Decidable d.WantsCondition := by
  unfold WantsCondition
  infer_instance

/-- How many questions are shown once a respondent is eligible. -/
def gatedCount (d : Document) : Nat :=
  (if d.legalTexts = [] then 0 else 1) + d.personalInfo.count

/-- The sections before the first legal text. -/
def rowBeforeGated (d : Document) : List Section :=
  List.replicate d.hiddenFields.length Section.hidden ++ [Section.header] ++
    List.replicate d.eligibilityQuestions.length Section.eligibility

/-- The sections after the personal questions. -/
def rowAfterGated (d : Document) : List Section :=
  [Section.pageBreak] ++ List.replicate (d.legalTexts.length - 1) Section.legal ++
    List.replicate d.signatures.length Section.signature ++
    (if d.includeCaptcha then [Section.captcha] else []) ++ [Section.submit] ++
    List.replicate d.knownWidgets.length Section.widget

/-- The sections that are shown together stand together. -/
theorem sectionRow_eq (d : Document) :
    d.sectionRow = d.rowBeforeGated ++
      (List.replicate (if d.legalTexts = [] then 0 else 1) Section.firstLegal ++
        List.replicate d.personalInfo.count Section.personal) ++ d.rowAfterGated := by
  by_cases hl : d.legalTexts = [] <;>
    simp [sectionRow, rowBeforeGated, rowAfterGated, hl]

/-- What stands after the personal questions is neither tested nor shown. -/
theorem not_mem_rowAfterGated (d : Document) {p : Section}
    (hp : p = .eligibility ∨ p = .firstLegal ∨ p = .personal) : p ∉ d.rowAfterGated := by
  unfold rowAfterGated
  rcases hp with rfl | rfl | rfl <;> cases d.includeCaptcha <;> simp

theorem length_rowBeforeGated (d : Document) :
    d.rowBeforeGated.length = d.hiddenFields.length + 1 + d.eligibilityQuestions.length := by
  simp only [rowBeforeGated, List.length_append, List.length_replicate, List.length_singleton]

variable {d : Document} {qs : List Question}

/-- The eligibility questions have the positions after the header. -/
theorem LaidOut.positionsOf_eligibility (h : d.LaidOut qs) :
    Question.positionsOf .eligibility qs =
      (List.range d.eligibilityQuestions.length).map fun i =>
        ((d.hiddenFields.length + 1 + i + 1 : Nat) : Int) := by
  have hrow : d.sectionRow =
      (List.replicate d.hiddenFields.length Section.hidden ++ [Section.header]) ++
        List.replicate d.eligibilityQuestions.length Section.eligibility ++
        (List.replicate (if d.legalTexts = [] then 0 else 1) Section.firstLegal ++
          List.replicate d.personalInfo.count Section.personal ++ d.rowAfterGated) := by
    rw [sectionRow_eq, rowBeforeGated]
    simp only [List.append_assoc]
  have hafter := d.not_mem_rowAfterGated (p := .eligibility) (Or.inl rfl)
  rw [Question.positionsOf_eq_places h.positions, h.sections, hrow,
    Section.places_block (by simp) (by simpa using hafter)]
  simp only [List.length_append, List.length_replicate, List.length_singleton]

/-- The first legal text and the personal questions have the positions after these. -/
theorem LaidOut.positionsOf_gated (h : d.LaidOut qs) :
    Question.positionsOf .firstLegal qs ++ Question.positionsOf .personal qs =
      (List.range d.gatedCount).map fun i =>
        ((d.hiddenFields.length + 1 + d.eligibilityQuestions.length + i + 1 : Nat) : Int) := by
  set n := if d.legalTexts = [] then 0 else 1 with hn
  -- Each of the two sections stands in one piece, and the first ends where the second begins.
  have hfirst : d.sectionRow = d.rowBeforeGated ++ List.replicate n Section.firstLegal ++
      (List.replicate d.personalInfo.count Section.personal ++ d.rowAfterGated) := by
    rw [sectionRow_eq, ← hn]
    simp only [List.append_assoc]
  have hpersonal : d.sectionRow = (d.rowBeforeGated ++ List.replicate n Section.firstLegal) ++
      List.replicate d.personalInfo.count Section.personal ++ d.rowAfterGated := by
    rw [sectionRow_eq, ← hn]
    simp only [List.append_assoc]
  have hafter := d.not_mem_rowAfterGated (p := .firstLegal) (Or.inr (Or.inl rfl))
  have hafter' := d.not_mem_rowAfterGated (p := .personal) (Or.inr (Or.inr rfl))
  have hbefore : Section.firstLegal ∉ d.rowBeforeGated := by simp [rowBeforeGated]
  have hbefore' : Section.personal ∉ d.rowBeforeGated := by simp [rowBeforeGated]
  rw [Question.positionsOf_eq_places h.positions, Question.positionsOf_eq_places h.positions,
    h.sections]
  conv_lhs =>
    congr
    · rw [hfirst, Section.places_block hbefore (by simpa using hafter)]
    · rw [hpersonal, Section.places_block (by simpa using hbefore') hafter']
  -- Two runs one after the other are one run.
  rw [gatedCount, ← hn, List.range_add, List.map_append, List.map_map]
  simp only [List.length_append, List.length_replicate, length_rowBeforeGated]
  congr 1
  refine List.map_congr_left fun i _ => ?_
  simp only [Function.comp]
  congr 1
  omega

/-- They are in ascending order already. -/
theorem LaidOut.gatedPositions_eq (h : d.LaidOut qs) :
    gatedPositions qs =
      Question.positionsOf .firstLegal qs ++ Question.positionsOf .personal qs := by
  unfold gatedPositions
  refine List.mergeSort_of_pairwise ?_
  rw [h.positionsOf_gated, List.pairwise_map]
  refine List.pairwise_lt_range.imp fun {i j} hij => ?_
  simp only [decide_eq_true_eq]
  omega

theorem anySelected_iff_count_ne_zero (info : PersonalInfo) :
    info.anySelected ↔ info.count ≠ 0 := by
  obtain ⟨n, a, e, p⟩ := info
  cases n <;> cases a <;> cases e <;> cases p <;> decide

/-- There is something to show exactly when there is a legal text or a personal question. -/
theorem gatedCount_ne_zero_iff (d : Document) :
    d.gatedCount ≠ 0 ↔ d.legalTexts ≠ [] ∨ d.personalInfo.anySelected := by
  rw [anySelected_iff_count_ne_zero, gatedCount]
  by_cases hl : d.legalTexts = []
  · simp [hl]
  · simp [hl]

/-- The conditions of a form that is laid out. -/
theorem LaidOut.derive_eq (h : d.LaidOut qs) :
    Condition.derive d.visibility qs =
      if d.WantsCondition then
        [{ terms := (Question.positionsOf .eligibility qs).map Term.affirmed
           actions := (Question.positionsOf .firstLegal qs ++
             Question.positionsOf .personal qs).map Action.reveal }]
      else [] := by
  have hpos : Question.positionsOf .eligibility qs ≠ [] ↔ d.eligibilityQuestions ≠ [] := by
    rw [h.positionsOf_eligibility]
    simp
  have hgated : gatedPositions qs ≠ [] ↔ d.legalTexts ≠ [] ∨ d.personalInfo.anySelected := by
    rw [← gatedCount_ne_zero_iff, h.gatedPositions_eq, h.positionsOf_gated]
    simp
  unfold Condition.derive
  dsimp only
  rw [← h.gatedPositions_eq]
  refine if_congr ?_ rfl rfl
  unfold WantsCondition
  rw [← hpos, ← hgated]
  simp [and_assoc]

end Document

/-! ### The condition -/

/-- What the condition of a form is: the terms and the actions one by one, and which questions they
refer to. -/
structure Condition.Gates (c : Condition) (d : Document) (qs : List Question) : Prop where
  link : c.link = .all
  terms : c.terms = (List.range d.eligibilityQuestions.length).map fun i =>
    { field := toString (d.hiddenFields.length + 2 + i)
      operator := .text "equals"
      value := "Yes" }
  actions : c.actions = (List.range d.gatedCount).map fun i =>
    { field := toString (d.hiddenFields.length + 2 + d.eligibilityQuestions.length + i)
      visibility := .text "Show" }
  tested : ∀ q ∈ qs, toString q.position ∈ c.terms.map Term.field ↔ q.part = .eligibility
  shown : ∀ q ∈ qs,
    toString q.position ∈ c.actions.map Action.field ↔ q.part = .firstLegal ∨ q.part = .personal
  disjoint : ∀ t ∈ c.terms, ∀ a ∈ c.actions, t.field ≠ a.field
  tested_before_shown : ∀ q ∈ qs, ∀ r ∈ qs, toString q.position ∈ c.terms.map Term.field →
    toString r.position ∈ c.actions.map Action.field → q.position < r.position
  refers : ∀ field ∈ c.terms.map Term.field ++ c.actions.map Action.field,
    ∃ q ∈ qs, field = toString q.position

namespace Document.LaidOut

variable {d : Document} {qs : List Question}

/-- A question is found by its position. -/
theorem eq_of_position_eq (h : d.LaidOut qs) {q r : Question} (hq : q ∈ qs) (hr : r ∈ qs)
    (hqr : q.position = r.position) : q = r := by
  obtain ⟨i, hi, rfl⟩ := List.getElem_of_mem hq
  obtain ⟨j, hj, rfl⟩ := List.getElem_of_mem hr
  rw [h.positions i hi, h.positions j hj] at hqr
  have hij : i = j := by omega
  subst hij
  rfl

/-- A position is one of a section exactly when the question there belongs to it. -/
theorem position_mem_positionsOf_iff (h : d.LaidOut qs) {q : Question} (hq : q ∈ qs)
    (p : Section) : q.position ∈ Question.positionsOf p qs ↔ q.part = p := by
  constructor
  · intro hp
    obtain ⟨r, hr, hrq⟩ := List.mem_map.mp hp
    obtain ⟨hr, hrp⟩ := List.mem_filter.mp hr
    rw [← h.eq_of_position_eq hr hq hrq]
    simpa using hrp
  · intro hp
    exact List.mem_map_of_mem (List.mem_filter.mpr ⟨hq, by simpa using hp⟩)

end Document.LaidOut

/-- Two positions are written alike only if they are the same. -/
theorem toString_mem_map_toString_iff {n : Int} {ns : List Int} :
    toString n ∈ ns.map (fun m : Int => toString m) ↔ n ∈ ns := by
  constructor
  · intro hn
    obtain ⟨m, hm, hmn⟩ := List.mem_map.mp hn
    exact Int.repr_injective hmn ▸ hm
  · exact fun hn => List.mem_map_of_mem hn

theorem map_field_map_affirmed (ns : List Int) :
    (ns.map Term.affirmed).map Term.field = ns.map fun n : Int => toString n := by
  rw [List.map_map]
  rfl

theorem map_field_map_reveal (ns : List Int) :
    (ns.map Action.reveal).map Action.field = ns.map fun n : Int => toString n := by
  rw [List.map_map]
  rfl

/-- The condition that is made from the positions of a laid out form. -/
theorem Document.LaidOut.gates {d : Document} {qs : List Question} (h : d.LaidOut qs) :
    Condition.Gates
      { terms := (Question.positionsOf .eligibility qs).map Term.affirmed
        actions := (Question.positionsOf .firstLegal qs ++
          Question.positionsOf .personal qs).map Action.reveal } d qs where
  link := rfl
  terms := by
    rw [h.positionsOf_eligibility, List.map_map]
    refine List.map_congr_left fun i _ => ?_
    have hi : d.hiddenFields.length + 1 + i + 1 = d.hiddenFields.length + 2 + i := by omega
    rw [Function.comp, hi]
    rfl
  actions := by
    rw [h.positionsOf_gated, List.map_map]
    refine List.map_congr_left fun i _ => ?_
    have hi : d.hiddenFields.length + 1 + d.eligibilityQuestions.length + i + 1 =
        d.hiddenFields.length + 2 + d.eligibilityQuestions.length + i := by omega
    rw [Function.comp, hi]
    rfl
  -- Positions are written in decimal, so whether one is named is told by its text.
  tested q hq := by
    rw [map_field_map_affirmed, toString_mem_map_toString_iff, h.position_mem_positionsOf_iff hq]
  shown q hq := by
    rw [map_field_map_reveal, toString_mem_map_toString_iff, List.mem_append,
      h.position_mem_positionsOf_iff hq, h.position_mem_positionsOf_iff hq]
  disjoint := by
    intro t ht a ha hta
    obtain ⟨m, hm, rfl⟩ := List.mem_map.mp ht
    obtain ⟨n, hn, rfl⟩ := List.mem_map.mp ha
    have hmn : m = n := Int.repr_injective hta
    rw [h.positionsOf_eligibility] at hm
    rw [h.positionsOf_gated] at hn
    obtain ⟨i, hi, rfl⟩ := List.mem_map.mp hm
    obtain ⟨j, _, rfl⟩ := List.mem_map.mp hn
    rw [List.mem_range] at hi
    omega
  tested_before_shown q hq r hr hqt hra := by
    rw [map_field_map_affirmed, toString_mem_map_toString_iff, h.positionsOf_eligibility] at hqt
    rw [map_field_map_reveal, toString_mem_map_toString_iff, h.positionsOf_gated] at hra
    obtain ⟨i, hi, hiq⟩ := List.mem_map.mp hqt
    obtain ⟨j, hj, hjr⟩ := List.mem_map.mp hra
    rw [List.mem_range] at hi
    omega
  refers := by
    intro field hf
    rw [map_field_map_affirmed, map_field_map_reveal, ← List.map_append] at hf
    obtain ⟨n, hn, rfl⟩ := List.mem_map.mp hf
    simp only [Question.positionsOf, List.mem_append, List.mem_map, List.mem_filter] at hn
    rcases hn with ⟨q, ⟨hq, _⟩, rfl⟩ | ⟨q, ⟨hq, _⟩, rfl⟩ | ⟨q, ⟨hq, _⟩, rfl⟩ <;> exact ⟨q, hq, rfl⟩

/-- A compiled form has one condition if it wants one, and none otherwise; and its condition tests
the eligibility questions and shows the first legal text and the personal questions. -/
theorem compile_conditions {d : Document} {form : CompiledForm} (h : d.compile = .ok form) :
    (form.conditions.length = 1 ↔ d.WantsCondition) ∧
      (¬d.WantsCondition → form.conditions = []) ∧
      ∀ c ∈ form.conditions, c.Gates d form.questions := by
  obtain ⟨_, _, rfl⟩ := Document.compile_eq_ok_iff.mp h
  have hlaid := d.laidOut_laidOutQuestions
  rw [hlaid.derive_eq]
  by_cases hw : d.WantsCondition
  · rw [if_pos hw]
    refine ⟨⟨fun _ => hw, fun _ => rfl⟩, fun hn => absurd hw hn, ?_⟩
    intro c hc
    rw [List.mem_singleton.mp hc]
    exact hlaid.gates
  · rw [if_neg hw]
    exact ⟨⟨nofun, fun h => absurd h hw⟩, fun _ => rfl, fun c hc => absurd hc List.not_mem_nil⟩

/-- With two hidden fields and one eligibility question, the question at position four is tested,
and the legal text and the e-mail address after it are shown. -/
theorem compile_conditions_of_two_hidden :
    let d : Document :=
      { hiddenFields :=
          [{ name := .text "source", text := "web" }, { name := .text "run", text := "" }]
        eligibilityQuestions := [{ text := .text "Adult?", name := .text "isAdult" }]
        legalTexts := [{ content := .text "Terms" }, { content := .text "Privacy" }]
        personalInfo := { includeEmail := true }
        visibility := { enabled := true, onlyIfEligible := true } }
    ∃ form, d.compile = .ok form ∧ d.WantsCondition ∧ form.conditions.length = 1 ∧
      ∀ c ∈ form.conditions, c.Gates d form.questions ∧
        c.terms.map Term.field = ["4"] ∧ c.actions.map Action.field = ["5", "6"] := by
  intro d
  have hform : d.compile = .ok ⟨_, _⟩ := rfl
  refine ⟨_, hform, by decide, (compile_conditions hform).1.mpr (by decide), fun c hc => ?_⟩
  have hgates := (compile_conditions hform).2.2 c hc
  refine ⟨hgates, ?_, ?_⟩
  · rw [hgates.terms]
    decide +kernel
  · rw [hgates.actions]
    decide +kernel

end FormPublisher
