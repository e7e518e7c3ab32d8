import FormPublisher.Proofs.Json.Value
import FormPublisher.Value.Display

/-!
# Values that are shown as nothing

The empty text is the only JSON value that is shown as the empty text
(`Value.display_eq_empty_iff`): numbers have digits, lists and mappings have brackets, and every
code point has a character.
-/

namespace FormPublisher

/-! ### Numbers -/

theorem toString_nat_ne_empty (n : Nat) : toString n ≠ "" := by
  rw [Nat.toString_eq_ofList_toDigits, Ne, ← String.toList_eq_nil_iff, String.toList_ofList]
  exact Nat.toDigits_ne_nil

theorem toString_int_ne_empty (n : Int) : toString n ≠ "" := by
  cases n with
  | ofNat m => exact toString_nat_ne_empty m
  | negSucc m =>
    show "-" ++ toString (m + 1) ≠ ""
    simp

namespace Binary64

/-- A decimal has a point, an exponent or at least its digits. -/
theorem writeDecimal_ne_empty (layout : FloatLayout) (d : Decimal) :
    writeDecimal layout d ≠ "" := by
  have hdigits : (toString d.digits).toList ≠ [] := by
    rw [Ne, String.toList_eq_nil_iff]
    exact toString_nat_ne_empty d.digits
  unfold writeDecimal
  dsimp only
  split
  · split
    · simp
    · split <;> simp
  · split
    · rename_i h
      exact absurd h hdigits
    · simp [writeExponent]
    · simp

theorem write_ne_empty {layout : FloatLayout} (hnan : layout.nan ≠ "")
    (hinfinity : layout.infinity ≠ "") (x : Binary64) : x.write layout ≠ "" := by
  cases x with
  | nan => exact hnan
  | infinite negative => simp [write, hinfinity]
  | finite negative m e =>
    by_cases hm : m = 0
    · simp [write, hm]
    · simp [write, hm, writeDecimal_ne_empty]

end Binary64

/-! ### Values -/

theorem Scalar.display_eq_empty_iff {s : Scalar} (hs : s.isJson) :
    s.display = "" ↔ s = .text "" := by
  cases s with
  | null => simp [display, quoted]
  | bool b => cases b <;> simp [display, quoted]
  | int n => simpa [display, quoted] using toString_int_ne_empty n
  | float x =>
    simpa [display, quoted] using Binary64.write_ne_empty (by decide) (by decide) x
  | text t => simp [display]
  | torn points =>
    cases points with
    | nil => cases hs
    | cons u us => simp [display, Text.ofPoints]
  | bytes _ | date _ | time _ => cases hs

/-- A JSON value that is shown as the empty text is the empty text. -/
theorem Value.display_eq_empty_iff {v : Value} (hv : v.isJson) :
    v.display = "" ↔ v = .text "" := by
  cases v with
  | scalar s => simp [display, Scalar.display_eq_empty_iff hv]
  | list _ | map _ => simp [display, quoted, quotedWithin, bracketed]
  | pair _ _ | set _ | knot _ _ | back _ _ => simp [isJson] at hv

end FormPublisher
