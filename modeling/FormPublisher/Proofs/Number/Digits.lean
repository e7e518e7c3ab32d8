import FormPublisher.Number.Numeral
import Mathlib.Data.List.Basic
import Mathlib.Data.List.Induction
import Mathlib.Data.List.TakeWhile
import Mathlib.Tactic.Ring

/-!
# Decimal digits

The digits of a number denote it (`ofDigits_toDigits`), and digits denote a number of at most as
many digits (`ofDigits_lt`).  A run of digits ends where the first other character stands, so a text
that begins with one falls into the run and the rest in one way (`append_inj_of_isDigit`).
-/

namespace FormPublisher

theorem toNat_sub_lt_of_isDigit {c : Char} (h : c.isDigit) : c.toNat - 48 < 10 := by
  simp only [Char.isDigit, ge_iff_le, Bool.and_eq_true, decide_eq_true_eq,
    UInt32.le_iff_toNat_le] at h
  have hval : c.val.toNat = c.toNat := rfl
  have hnine : '9'.val.toNat = 57 := rfl
  omega

namespace Numeral

/-! ### The number that digits denote -/

theorem foldl_digits_lt {cs : List Char} (h : ∀ c ∈ cs, c.isDigit) (n : Nat) :
    cs.foldl (fun n c => 10 * n + (c.toNat - 48)) n < (n + 1) * 10 ^ cs.length := by
  induction cs generalizing n with
  | nil => simp
  | cons c cs ih =>
    obtain ⟨hc, hcs⟩ := List.forall_mem_cons.mp h
    have hdigit := toNat_sub_lt_of_isDigit hc
    calc (c :: cs).foldl (fun n c => 10 * n + (c.toNat - 48)) n
        < (10 * n + (c.toNat - 48) + 1) * 10 ^ cs.length := ih hcs _
      _ ≤ (10 * (n + 1)) * 10 ^ cs.length := Nat.mul_le_mul_right _ (by omega)
      _ = (n + 1) * 10 ^ (c :: cs).length := by rw [List.length_cons, pow_succ]; ring

/-- Digits denote a number of at most as many digits. -/
theorem ofDigits_lt {cs : List Char} (h : ∀ c ∈ cs, c.isDigit) :
    ofDigits cs < 10 ^ cs.length := by
  have h := foldl_digits_lt h 0
  rwa [Nat.zero_add, Nat.one_mul] at h

theorem isWritable_ofDigits {cs : List Char} (h : ∀ c ∈ cs, c.isDigit)
    (hlength : cs.length ≤ digitLimit) : isWritable (ofDigits cs) := by
  -- The bound is never computed.
  have hbound : ∀ limit, cs.length ≤ limit → 10 ^ cs.length ≤ Nat.pow 10 limit :=
    fun limit hlimit => Nat.pow_le_pow_right (by decide) hlimit
  unfold isWritable writableBound
  rw [decide_eq_true_eq, Int.natAbs_natCast]
  exact Nat.lt_of_lt_of_le (ofDigits_lt h) (hbound _ hlength)

theorem isWritable_neg {n : Int} (h : isWritable n) : isWritable (-n) := by
  rw [isWritable, Int.natAbs_neg]
  exact h

/-- Digits in front of others count for as many powers of ten more. -/
theorem ofDigits_append (xs ys : List Char) :
    ofDigits (xs ++ ys) = ofDigits xs * 10 ^ ys.length + ofDigits ys := by
  induction ys using List.reverseRecOn with
  | nil => simp [ofDigits]
  | append_singleton ys c ih =>
    have hsnoc : ∀ zs : List Char, ofDigits (zs ++ [c]) = 10 * ofDigits zs + (c.toNat - 48) :=
      fun zs => by rw [ofDigits, List.foldl_append]; rfl
    rw [← List.append_assoc, hsnoc, ih, hsnoc, List.length_append, List.length_singleton, pow_succ]
    ring

/-- Zeros denote zero. -/
@[simp] theorem ofDigits_replicate_zero (n : Nat) : ofDigits (List.replicate n '0') = 0 := by
  induction n with
  | zero => rfl
  | succ n ih => rw [List.replicate_succ', ofDigits_append, ih]; rfl

/-! ### The digits of a number -/

@[simp] theorem ofDigits_toDigits (n : Nat) : ofDigits (Nat.toDigits 10 n) = n :=
  Nat.ofDigitChars_toDigits (by decide) (by decide)

theorem isDigit_of_mem_toDigits {n : Nat} : ∀ c ∈ Nat.toDigits 10 n, c.isDigit := fun _ hc =>
  Nat.isDigit_of_mem_toDigits (by decide) (by decide) hc

/-- Only zero is written with a leading zero. -/
theorem head?_toDigits_ne {n : Nat} (hn : n ≠ 0) : (Nat.toDigits 10 n).head? ≠ some '0' := by
  have hdigit : ∀ m < 10, m ≠ 0 → Nat.digitChar m ≠ '0' := by decide
  induction n using Nat.strong_induction_on with
  | _ n ih =>
    rw [Nat.toDigits_eq_if (by decide)]
    split
    · rename_i hlt
      rw [List.head?_cons, ne_eq, Option.some.injEq]
      exact hdigit n hlt hn
    · rw [List.head?_append_of_ne_nil _ Nat.toDigits_ne_nil]
      exact ih (n / 10) (by omega) (by omega)

theorem length_toDigits_le {n : Nat} (h : n < writableBound) :
    (Nat.toDigits 10 n).length ≤ digitLimit := by
  -- The bound is never computed.
  have hlength : ∀ limit, 0 < limit → n < Nat.pow 10 limit →
      (Nat.toDigits 10 n).length ≤ limit :=
    fun limit hlimit hn => (Nat.length_toDigits_le_iff (by decide) hlimit).mpr hn
  unfold writableBound at h
  exact hlength digitLimit (by decide) h

/-- A number is written with its digits. -/
theorem toList_toString (n : Nat) : (toString n).toList = Nat.toDigits 10 n := Nat.toList_repr

/-- A number that is not negative is written with its digits. -/
theorem toList_toString_ofNat (n : Nat) : (toString (Int.ofNat n)).toList = Nat.toDigits 10 n :=
  Nat.toList_repr

/-- A negative number is written with a sign before its digits. -/
theorem toList_toString_negSucc (n : Nat) :
    (toString (Int.negSucc n)).toList = '-' :: Nat.toDigits 10 (n + 1) := by
  show ("-" ++ Nat.repr (n + 1)).toList = _
  rw [String.toList_append, Nat.toList_repr]
  rfl

theorem isDigit_of_mem_zeros {k : Nat} : ∀ c ∈ List.replicate k '0', c.isDigit := by
  intro c hc
  rw [List.eq_of_mem_replicate hc]
  rfl

/-- Zeros in front of the digits of a number are digits too. -/
theorem isDigit_of_mem_zeros_append {k n : Nat} :
    ∀ c ∈ List.replicate k '0' ++ Nat.toDigits 10 n, c.isDigit :=
  List.forall_mem_append.mpr ⟨isDigit_of_mem_zeros, isDigit_of_mem_toDigits⟩

/-- Zeros in front of the digits of a number do not change it. -/
theorem ofDigits_zeros_append (k n : Nat) :
    ofDigits (List.replicate k '0' ++ Nat.toDigits 10 n) = n := by
  rw [ofDigits_append, ofDigits_replicate_zero, ofDigits_toDigits, Nat.zero_mul, Nat.zero_add]

/-- Zeros behind digits are powers of ten. -/
theorem ofDigits_append_zeros (ds : List Char) (k : Nat) :
    ofDigits (ds ++ List.replicate k '0') = ofDigits ds * 10 ^ k := by
  rw [ofDigits_append, ofDigits_replicate_zero, List.length_replicate, Nat.add_zero]

/-! ### Runs of digits -/

section Runs

variable {xs ys rest rest' : List Char}

/-- A run of digits is taken up to what does not begin with one. -/
theorem takeWhile_isDigit_append (hxs : ∀ c ∈ xs, c.isDigit)
    (hrest : ∀ c ∈ rest.head?, c.isDigit = false) : (xs ++ rest).takeWhile Char.isDigit = xs := by
  rw [List.takeWhile_append_of_pos hxs]
  cases rest with
  | nil => simp
  | cons c cs => simp [hrest c rfl]

/-- What follows a run of digits is left. -/
theorem dropWhile_isDigit_append (hxs : ∀ c ∈ xs, c.isDigit)
    (hrest : ∀ c ∈ rest.head?, c.isDigit = false) :
    (xs ++ rest).dropWhile Char.isDigit = rest := by
  rw [List.dropWhile_append_of_pos hxs]
  cases rest with
  | nil => rfl
  | cons c cs => simp [hrest c rfl]

/-- A text begins with one run of digits only. -/
theorem append_inj_of_isDigit (hxs : ∀ c ∈ xs, c.isDigit)
    (hrest : ∀ c ∈ rest.head?, c.isDigit = false) (hys : ∀ c ∈ ys, c.isDigit)
    (hrest' : ∀ c ∈ rest'.head?, c.isDigit = false) (h : xs ++ rest = ys ++ rest') :
    xs = ys ∧ rest = rest' := by
  constructor
  · rw [← takeWhile_isDigit_append hxs hrest, h, takeWhile_isDigit_append hys hrest']
  · rw [← dropWhile_isDigit_append hxs hrest, h, dropWhile_isDigit_append hys hrest']

end Runs

end Numeral

end FormPublisher
