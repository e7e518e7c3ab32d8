import FormPublisher.Number.Shortest
import FormPublisher.Proofs.Number.Rounding

/-!
# The shortest decimal reads back

`shortest` gives a decimal that is rounded to the number it was made from (`nearest_shortest`).  A
count of digits that is tried and taken has been read back.  The last count, seventeen, is taken
untried: the nearest decimal of seventeen digits is off by half of its last place, which is less
than a part in `2 ^ 54` of the number (`nearest_seventeen`).

The decimal exponent is estimated from the binary one and raised; it is the integer logarithm
(`decimalExponent_eq_log`), so a decimal has no more digits than were asked for.
-/

namespace FormPublisher

/-- The rational number that a decimal is. -/
def Decimal.value (d : Decimal) : ℚ := d.digits * 10 ^ d.exponent

namespace Binary64

/-! ### Reading a decimal -/

/-- The estimate of a decimal logarithm from a binary one; none of a double is as large as the
bound. -/
theorem ten_pow_le_two_pow {l : Nat} (h : l < 1100) :
    10 ^ (l * 30103 / 100000) ≤ 2 ^ l ∧ 2 ^ l ≤ 10 ^ (l * 30103 / 100000 + 1) := by
  have all : ∀ l < 1100, 10 ^ (l * 30103 / 100000) ≤ 2 ^ l ∧
      2 ^ l ≤ 10 ^ (l * 30103 / 100000 + 1) := by decide +kernel
  exact all l h

/-- The range in which powers are computed is wider than that of the doubles. -/
theorem two_pow_le_ten_pow : 2 ^ 1024 ≤ 10 ^ 310 ∧ 2 ^ 1075 ≤ 10 ^ 328 := by decide +kernel

/-- A decimal with digits that are not too many is rounded to the nearest double: where the power is
not computed the answer is the same. -/
theorem ofDecimal_eq_nearest (negative : Bool) {digits : Nat} (h : digits < 2 ^ 200)
    (exponent : Int) :
    ofDecimal negative digits exponent = nearest negative (digits * 10 ^ exponent) := by
  unfold ofDecimal
  by_cases hd : digits = 0
  · simp [hd, nearest]
  have hlog : Nat.log2 digits < 200 := (Nat.log2_lt hd).mpr h
  obtain ⟨hten, htwo⟩ := ten_pow_le_two_pow (l := Nat.log2 digits) (by omega)
  have hlow : 10 ^ (Nat.log2 digits * 30103 / 100000) ≤ digits :=
    hten.trans (Nat.log2_self_le hd)
  have hhigh : digits < 10 ^ (Nat.log2 digits * 30103 / 100000 + 2) := by
    have h₁ : digits < 2 ^ (Nat.log2 digits + 1) := Nat.lt_log2_self
    rw [pow_succ] at h₁ ⊢
    omega
  generalize Nat.log2 digits * 30103 / 100000 = k at hlow hhigh
  have hlow' : (10 : ℚ) ^ (k : Int) ≤ digits := by rw [zpow_natCast]; exact_mod_cast hlow
  have hhigh' : (digits : ℚ) < 10 ^ ((k : Int) + 2) := by
    rw [show (k : Int) + 2 = ((k + 2 : Nat) : Int) by push_cast; rfl, zpow_natCast]
    exact_mod_cast hhigh
  dsimp only
  rw [if_neg hd]
  split_ifs with hinf hzero
  · refine (nearest_eq_infinite ?_ negative).symm
    calc (2 : ℚ) ^ (1024 : Int) ≤ 10 ^ (310 : Int) := by exact_mod_cast two_pow_le_ten_pow.1
      _ ≤ 10 ^ ((k : Int) + exponent) := zpow_le_zpow_right₀ (by norm_num) (by omega)
      _ = 10 ^ (k : Int) * 10 ^ exponent := zpow_add₀ (by norm_num) _ _
      _ ≤ digits * 10 ^ exponent := by gcongr
  · refine (nearest_eq_zero ?_ negative).symm
    calc (digits : ℚ) * 10 ^ exponent < 10 ^ ((k : Int) + 2) * 10 ^ exponent := by gcongr
      _ = 10 ^ ((k : Int) + 2 + exponent) := (zpow_add₀ (by norm_num) _ _).symm
      _ ≤ 10 ^ (-328 : Int) := zpow_le_zpow_right₀ (by norm_num) (by omega)
      _ ≤ 2 ^ (-1075 : Int) := by
          rw [zpow_neg, zpow_neg, inv_le_inv₀ (by positivity) (by positivity)]
          exact_mod_cast two_pow_le_ten_pow.2
  · rw [ofRatio_eq_nearest _ _ (ratio_snd_pos (by norm_num) _ _), div_ratio]
    rfl

/-- A decimal that is read as a positive double is rounded to it, however many digits it has. -/
theorem nearest_of_ofDecimal_eq {negative : Bool} {digits : Nat} {exponent : Int} {m : Nat}
    {e : Int} (hm : 0 < m) (h : ofDecimal negative digits exponent = .finite negative m e) :
    nearest negative (digits * 10 ^ exponent) = .finite negative m e := by
  have hzero : zero negative ≠ .finite negative m e := by
    intro hz
    injection hz
    omega
  unfold ofDecimal at h
  dsimp only at h
  split_ifs at h
  · exact absurd h hzero
  · exact absurd h hzero
  · rwa [ofRatio_eq_nearest _ _ (ratio_snd_pos (by norm_num) _ _), div_ratio] at h

/-! ### The decimal exponent -/

/-- The estimate of the decimal exponent is between one and three too small. -/
theorem estimate_bounds {r : ℚ} (hr : 0 < r) (hlog : (Int.log 2 r).natAbs < 1100) :
    Int.log 2 r * 30103 / 100000 - 1 ≤ Int.log 10 r ∧
      Int.log 10 r ≤ Int.log 2 r * 30103 / 100000 + 2 := by
  have hlow : (2 : ℚ) ^ Int.log 2 r ≤ r := Int.zpow_log_le_self (by norm_num) hr
  have hhigh : r < (2 : ℚ) ^ (Int.log 2 r + 1) := Int.lt_zpow_succ_log_self (by norm_num) r
  rw [zpow_add_one₀ (by norm_num)] at hhigh
  generalize Int.log 2 r = b at hlow hhigh hlog
  have hten : (10 : ℚ) ^ (b * 30103 / 100000 - 1) ≤ 2 ^ b ∧
      (2 : ℚ) ^ b * 2 ≤ 10 ^ (b * 30103 / 100000 + 3) := by
    obtain ⟨h₁, h₂⟩ := ten_pow_le_two_pow hlog
    have h₁' : (10 : ℚ) ^ ((b.natAbs * 30103 / 100000 : Nat) : Int) ≤ 2 ^ (b.natAbs : Int) := by
      rw [zpow_natCast, zpow_natCast]; exact_mod_cast h₁
    have h₂' : (2 : ℚ) ^ (b.natAbs : Int) ≤
        10 ^ (((b.natAbs * 30103 / 100000 : Nat) : Int) + 1) := by
      rw [zpow_add_one₀ (by norm_num), zpow_natCast, zpow_natCast]; exact_mod_cast h₂
    generalize hk : b.natAbs * 30103 / 100000 = k at h₁' h₂'
    rcases Int.natAbs_eq b with hb | hb
    · rw [← hb] at h₁' h₂'
      constructor
      · exact (zpow_le_zpow_right₀ (by norm_num) (by omega)).trans h₁'
      · calc (2 : ℚ) ^ b * 2 ≤ 10 ^ ((k : Int) + 1) * 10 := by gcongr; norm_num
          _ = 10 ^ ((k : Int) + 1 + 1) := (zpow_add_one₀ (by norm_num) _).symm
          _ ≤ 10 ^ (b * 30103 / 100000 + 3) := zpow_le_zpow_right₀ (by norm_num) (by omega)
    · have hinv : (2 : ℚ) ^ b = (2 ^ (b.natAbs : Int))⁻¹ := by rw [← zpow_neg, ← hb]
      rw [hinv]
      constructor
      · calc (10 : ℚ) ^ (b * 30103 / 100000 - 1) ≤ 10 ^ (-((k : Int) + 1)) :=
            zpow_le_zpow_right₀ (by norm_num) (by omega)
          _ = (10 ^ ((k : Int) + 1))⁻¹ := zpow_neg _ _
          _ ≤ (2 ^ (b.natAbs : Int))⁻¹ := by gcongr
      · calc ((2 : ℚ) ^ (b.natAbs : Int))⁻¹ * 2 ≤ (10 ^ (k : Int))⁻¹ * 10 := by gcongr; norm_num
          _ = 10 ^ (-(k : Int) + 1) := by rw [zpow_add_one₀ (by norm_num), zpow_neg]
          _ ≤ 10 ^ (b * 30103 / 100000 + 3) := zpow_le_zpow_right₀ (by norm_num) (by omega)
  constructor
  · exact (Int.zpow_le_iff_le_log (b := 10) (by norm_num) hr).mp
      (by exact_mod_cast hten.1.trans hlow)
  · have := (Int.lt_zpow_iff_log_lt (b := 10) (by norm_num) hr).mp
      (by exact_mod_cast hhigh.trans_le hten.2)
    omega

/-- The decimal exponent of a quotient is its integer logarithm. -/
theorem decimalExponent_eq_log {num den : Nat} (hn : 0 < num) (hd : 0 < den)
    (hlog : (Int.log 2 ((num : ℚ) / den)).natAbs < 1100) :
    decimalExponent num den = Int.log 10 ((num : ℚ) / den) := by
  have hpos : (0 : ℚ) < num / den := div_pos (by exact_mod_cast hn) (by exact_mod_cast hd)
  obtain ⟨hlow, hhigh⟩ := estimate_bounds hpos hlog
  have hreach : ∀ k : Int, den * (ratio 10 1 k).1 ≤ num * (ratio 10 1 k).2 ↔
      k ≤ Int.log 10 ((num : ℚ) / den) := fun k =>
    (mul_ratio_le_iff (by norm_num) num hd k).trans
      (Int.zpow_le_iff_le_log (b := 10) (by norm_num) hpos)
  unfold decimalExponent
  simp only [hreach, binaryExponent_eq_log hn hd, decide_eq_true_eq]
  split_ifs <;> omega

/-! ### The decimal grid -/

/-- The neighbours of a quotient are the natural numbers around it, the rounded quotient first. -/
theorem neighbours_eq (num : Nat) {den : Nat} (hd : 0 < den) (scale : Int) :
    neighbours num den scale =
      let r : ℚ := num / den / 10 ^ scale
      if nearestNat r = ⌊r⌋₊ then [⌊r⌋₊, ⌊r⌋₊ + 1] else [⌊r⌋₊ + 1, ⌊r⌋₊] := by
  have hd' : 0 < den * (ratio 10 1 scale).1 :=
    Nat.mul_pos hd (ratio_fst_pos (by norm_num) one_pos scale)
  have hscaled := div_scaled 10 num den scale
  rw [Nat.cast_ofNat] at hscaled
  unfold neighbours
  simp only [roundDiv_eq_nearestNat _ hd', ← Nat.floor_div_eq_div (K := ℚ), hscaled]

/-- The first neighbour is the rounded quotient. -/
theorem head?_neighbours (num : Nat) {den : Nat} (hd : 0 < den) (scale : Int) :
    (neighbours num den scale).head? = some (nearestNat ((num : ℚ) / den / 10 ^ scale)) := by
  rw [neighbours_eq num hd]
  dsimp only
  split
  case isTrue h => rw [List.head?_cons, h]
  case isFalse h => rw [List.head?_cons, (nearestNat_eq_or _).resolve_left h]

/-- A neighbour of a number below a natural number is at most that. -/
theorem le_of_mem_neighbours {num den : Nat} (hd : 0 < den) {scale : Int} {q n : Nat}
    (hn : (num : ℚ) / den / 10 ^ scale < n) (hq : q ∈ neighbours num den scale) : q ≤ n := by
  have hfloor : ⌊(num : ℚ) / den / 10 ^ scale⌋₊ < n := (Nat.floor_lt (by positivity)).mpr hn
  rw [neighbours_eq num hd] at hq
  dsimp only at hq
  split at hq <;> simp only [List.mem_cons, List.not_mem_nil, or_false] at hq <;> omega

/-! ### Seventeen digits -/

/-- The nearest decimal of seventeen digits is rounded to the number. -/
theorem nearest_seventeen {m : Nat} {e : Int} (hm : 0 < m) (hx : (finite false m e).IsDouble) :
    let r : ℚ := m * 2 ^ e
    nearest false (nearestNat (r / 10 ^ (Int.log 10 r - 16)) * 10 ^ (Int.log 10 r - 16)) =
      .finite false m e := by
  intro r
  have hr : 0 < r := by positivity
  have hlog : (10 : ℚ) ^ Int.log 10 r ≤ r := Int.zpow_log_le_self (by norm_num) hr
  have hunit : (10 : ℚ) ^ Int.log 10 r = 10 ^ (Int.log 10 r - 16) * 10 ^ 16 := by
    rw [← zpow_natCast, ← zpow_add₀ (by norm_num)]
    congr 1
    omega
  rw [hunit] at hlog
  set u : ℚ := 10 ^ (Int.log 10 r - 16) with hu
  have hupos : 0 < u := by positivity
  refine nearest_eq_of_near hm hx ?_
  have hround := abs_nearestNat_sub_le (r := r / u) (by positivity)
  calc |nearestNat (r / u) * u - r| = |(nearestNat (r / u) : ℚ) - r / u| * u := by
        rw [← abs_of_pos hupos, ← abs_mul, abs_of_pos hupos, sub_mul, div_mul_cancel₀ _ hupos.ne']
    _ ≤ 1 / 2 * u := by gcongr
    _ < r / 2 ^ 54 := by
        rw [lt_div_iff₀ (by positivity)]
        linarith

/-! ### The search -/

section Search

variable {m : Nat} {e : Int}

/-- A positive double is small enough for the estimate of its decimal exponent. -/
theorem natAbs_log_lt (hm : 0 < m) (hx : (finite false m e).IsDouble) :
    (Int.log 2 ((m : ℚ) * 2 ^ e)).natAbs < 1100 := by
  obtain ⟨hm₁, he₁, he₂, -⟩ := hx
  have hm' : (1 : ℚ) ≤ m := by exact_mod_cast hm
  have hm₁' : (m : ℚ) < 2 ^ (53 : Int) := by exact_mod_cast hm₁
  have hlow : e ≤ Int.log 2 ((m : ℚ) * 2 ^ e) :=
    (Int.zpow_le_iff_le_log (b := 2) (by norm_num) (by positivity)).mp (by
      push_cast
      exact le_mul_of_one_le_left (by positivity) hm')
  have hhigh : Int.log 2 ((m : ℚ) * 2 ^ e) < 53 + e :=
    (Int.lt_zpow_iff_log_lt (b := 2) (by norm_num) (by positivity)).mp (by
      push_cast
      rw [zpow_add₀ (by norm_num)]
      gcongr)
  unfold leastExponent at he₁
  unfold greatestExponent at he₂
  omega

/-- Every count of digits up to seventeen gives a decimal that is rounded to the number, if the one
that is taken at the end does; it has no more than seventeen digits. -/
theorem nearest_shortestFrom (hm : 0 < m) (hx : (finite false m e).IsDouble) {num den : Nat}
    (hd : 0 < den) (hr : (num : ℚ) / den = m * 2 ^ e) (fuel count : Nat)
    (hcount : fuel + count = 17) :
    let d := shortestFrom (.finite false m e) num den (Int.log 10 ((m : ℚ) * 2 ^ e)) fuel count
    nearest false d.value = .finite false m e ∧ d.digits ≤ 10 ^ 17 := by
  have hpos : (0 : ℚ) < m * 2 ^ e := by positivity
  have hhigh : (m : ℚ) * 2 ^ e < 10 ^ (Int.log 10 ((m : ℚ) * 2 ^ e) + 1) := by
    exact_mod_cast Int.lt_zpow_succ_log_self (b := 10) (by norm_num) ((m : ℚ) * 2 ^ e)
  have hbound : ∀ n : Nat, n ≤ 17 → ∀ q ∈ neighbours num den
      (Int.log 10 ((m : ℚ) * 2 ^ e) + 1 - n), q ≤ 10 ^ 17 := by
    intro n hn q hq
    refine (le_of_mem_neighbours hd (n := 10 ^ n) ?_ hq).trans
      (Nat.pow_le_pow_right (by norm_num) hn)
    rw [hr, div_lt_iff₀ (by positivity), Nat.cast_pow, Nat.cast_ofNat, ← zpow_natCast,
      ← zpow_add₀ (by norm_num), add_sub_cancel]
    exact hhigh
  induction fuel generalizing count with
  | zero =>
    obtain rfl : count = 17 := by omega
    have hscale : Int.log 10 ((m : ℚ) * 2 ^ e) + 1 - (17 : Nat) =
        Int.log 10 ((m : ℚ) * 2 ^ e) - 16 := by push_cast; ring
    have hhead := head?_neighbours num hd (Int.log 10 ((m : ℚ) * 2 ^ e) + 1 - (17 : Nat))
    simp only [shortestFrom, List.headD_eq_head?_getD, hhead, Option.getD_some]
    refine ⟨?_, hbound 17 le_rfl _ (List.mem_of_head? hhead)⟩
    simp only [Decimal.value, hr, hscale]
    exact nearest_seventeen hm hx
  | succ fuel ih =>
    simp only [shortestFrom]
    split
    case h_1 q hq =>
      have hread := List.find?_some hq
      rw [beq_iff_eq] at hread
      exact ⟨nearest_of_ofDecimal_eq hm hread,
        hbound count (by omega) q (List.mem_of_find?_eq_some hq)⟩
    case h_2 => exact ih (count + 1) (by omega)

/-- Taking zeros away from the end leaves the value. -/
theorem trim_spec (fuel : Nat) (d : Decimal) :
    (d.trim fuel).value = d.value ∧ (d.trim fuel).digits ≤ d.digits := by
  induction fuel generalizing d with
  | zero => exact ⟨rfl, le_rfl⟩
  | succ fuel ih =>
    unfold Decimal.trim
    split
    case isTrue h =>
      simp only [Bool.and_eq_true, decide_eq_true_eq] at h
      obtain ⟨hvalue, hle⟩ := ih ⟨d.digits / 10, d.exponent + 1⟩
      refine ⟨hvalue.trans ?_, hle.trans (Nat.div_le_self _ _)⟩
      have hdigits : (d.digits : ℚ) = (d.digits / 10 : Nat) * 10 := by
        exact_mod_cast (Nat.div_mul_cancel (Nat.dvd_of_mod_eq_zero h.2)).symm
      rw [Decimal.value, Decimal.value, hdigits, zpow_add_one₀ (by norm_num)]
      ring
    case isFalse => exact ⟨rfl, le_rfl⟩

/-- The shortest decimal of a positive double is rounded to it, and it has no more than seventeen
digits. -/
theorem nearest_shortest (hm : 0 < m) (hx : (finite false m e).IsDouble) :
    nearest false (shortest m e).value = .finite false m e ∧ (shortest m e).digits ≤ 10 ^ 17 := by
  have hratio := div_ratio 2 m e
  rw [Nat.cast_ofNat] at hratio
  have hd := ratio_snd_pos (b := 2) (by norm_num) m e
  have hlog := decimalExponent_eq_log (ratio_fst_pos (by norm_num) hm e) hd
    (hratio ▸ natAbs_log_lt hm hx)
  obtain ⟨hnear, hle⟩ := nearest_shortestFrom hm hx hd hratio 16 1 rfl
  obtain ⟨hvalue, htrim⟩ := trim_spec 20 (shortestFrom (.finite false m e) (ratio 2 m e).1
    (ratio 2 m e).2 (Int.log 10 ((m : ℚ) * 2 ^ e)) 16 1)
  unfold shortest
  dsimp only
  rw [hlog, hratio, hvalue]
  exact ⟨hnear, htrim.trans hle⟩

/-- The shortest decimal of a positive double has digits: without them it would be zero. -/
theorem digits_shortest_pos (hm : 0 < m) (hx : (finite false m e).IsDouble) :
    0 < (shortest m e).digits := by
  by_contra hzero
  have hvalue := (nearest_shortest hm hx).1
  rw [Decimal.value, Nat.eq_zero_of_not_pos hzero, Nat.cast_zero, zero_mul, nearest,
    if_pos le_rfl] at hvalue
  injection hvalue
  omega

end Search

end Binary64

end FormPublisher
