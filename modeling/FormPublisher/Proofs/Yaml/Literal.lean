import FormPublisher.Proofs.Outcome
import FormPublisher.Proofs.Value.Spelling
import FormPublisher.Yaml.Literal

/-!
# Decimals that are read are doubles

Whatever text stands in a configuration file, a decimal that it is read as is a double
(`Tag.isDouble_of_read`): a numeral is rounded when it is read, and the places of a decimal in base
sixty are rounded when they are summed.
-/

namespace FormPublisher

open Binary64

namespace Numeral

theorem isDouble_of_readDecimal? {negative : Bool} {cs : List Char} {x : Binary64}
    (h : readDecimal? negative cs = some x) : x.IsDouble := by
  unfold readDecimal? at h
  dsimp only at h
  split_ifs at h
  obtain ⟨e, -, rfl⟩ := Option.map_eq_some_iff.mp h
  exact isDouble_ofDecimal _ _ _

/-- A text is read as a double if it is read as a number. -/
theorem isDouble_of_readFloat? {cs : List Char} {x : Binary64} (h : readFloat? cs = some x) :
    x.IsDouble := by
  unfold readFloat? at h
  dsimp only at h
  split_ifs at h
  · obtain rfl := Option.some.inj h
    trivial
  · obtain rfl := Option.some.inj h
    trivial
  · exact isDouble_of_readDecimal? h

end Numeral

namespace Yaml

theorem isDouble_of_decimalOf {cs : List Char} {x : Binary64} (h : decimalOf cs = .ok x) :
    x.IsDouble := by
  unfold decimalOf at h
  split at h
  case h_1 hread =>
    obtain rfl := Except.ok.inj h
    exact Numeral.isDouble_of_readFloat? hread
  case h_2 => cases h

theorem isDouble_of_sumPlaces {weight : Int} {sum x : Binary64} {places : List Binary64}
    (hsum : sum.IsDouble) (h : sumPlaces weight sum places = .ok x) : x.IsDouble := by
  induction places generalizing weight sum with
  | nil =>
    obtain rfl := Except.ok.inj h
    exact hsum
  | cons y ys ih =>
    rw [sumPlaces] at h
    split at h
    · cases h
    · exact ih (isDouble_add _ _) h

theorem isDouble_of_readAbsolute {cs : List Char} {x : Binary64} (h : readAbsolute cs = .ok x) :
    x.IsDouble := by
  unfold readAbsolute at h
  split at h
  · obtain rfl := Except.ok.inj h
    trivial
  split at h
  · obtain rfl := Except.ok.inj h
    trivial
  split at h
  · obtain ⟨places, -, h⟩ := bind_eq_ok_iff.mp h
    exact isDouble_of_sumPlaces (isDouble_zero _) h
  · exact isDouble_of_decimalOf h

theorem isDouble_of_readDecimal {cs : List Char} {x : Binary64} (h : readDecimal cs = .ok x) :
    x.IsDouble := by
  unfold readDecimal at h
  split at h
  · cases h
  · obtain ⟨y, hy, rfl⟩ := map_eq_ok_iff.mp h
    exact (isDouble_of_readAbsolute hy).neg
  · exact isDouble_of_readAbsolute h
  · exact isDouble_of_readAbsolute h

theorem isDouble_of_readMoment {s : String} {a : Scalar} (h : readMoment s = .ok a) :
    a.IsDouble := by
  unfold readMoment at h
  split at h
  · cases h
  · split at h
    all_goals cases h
    all_goals trivial

theorem isDouble_of_readBytes {s : String} {a : Scalar} (h : readBytes s = .ok a) :
    a.IsDouble := by
  unfold readBytes at h
  split at h
  · split at h
    all_goals cases h
    all_goals trivial
  · cases h

/-- If the text of a scalar is read as a decimal, it is a double. -/
theorem Tag.isDouble_of_read {t : Tag} {s : String} {a : Scalar} (h : t.read s = .ok a) :
    a.IsDouble := by
  cases t with
  | null | text =>
    obtain rfl := Except.ok.inj h
    trivial
  | bool | int =>
    simp only [Tag.read, mapError_eq_ok_iff, map_eq_ok_iff] at h
    obtain ⟨x, -, rfl⟩ := h
    trivial
  | float =>
    simp only [Tag.read, mapError_eq_ok_iff, map_eq_ok_iff] at h
    obtain ⟨x, hx, rfl⟩ := h
    exact isDouble_of_readDecimal hx
  | binary => exact isDouble_of_readBytes h
  | timestamp => exact isDouble_of_readMoment (mapError_eq_ok_iff.mp h)
  | _ => cases h

end Yaml

end FormPublisher
