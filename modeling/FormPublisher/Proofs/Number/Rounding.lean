import FormPublisher.Number.Binary64
import Mathlib

/-!
# Rounding a rational number

`Binary64.nearest` rounds a rational number, and `ofRatio` is that rounding of the quotient of its
arguments (`ofRatio_eq_nearest`), so it does not matter how a quotient is written.  What `nearest`
gives is a double (`isDouble_nearest`), and therefore so are all sums, products and numerals.  It
gives the double `m · 2 ^ e` for every rational less than half a unit away from it
(`nearest_eq_of_near`); below a power of two the unit is half as large, so there only a quarter is
allowed.
-/

namespace FormPublisher.Binary64

/-! ### Quotients and powers -/

/-- A power of a positive base is positive. -/
theorem ratio_snd_pos {b : Nat} (hb : 0 < b) (m : Nat) (e : Int) :
    0 < (ratio b m e).2 := by
  unfold ratio
  split
  · exact Nat.one_pos
  · exact (Nat.pow_pos hb : 0 < b ^ (-e).toNat)

/-- The product with a power of a positive base is positive if the factor is. -/
theorem ratio_fst_pos {b m : Nat} (hb : 0 < b) (hm : 0 < m) (e : Int) :
    0 < (ratio b m e).1 := by
  unfold ratio
  split
  · exact Nat.mul_pos hm (show 0 < b ^ e.toNat from Nat.pow_pos hb)
  · exact hm

/-- The pair stands for the product with the power. -/
theorem div_ratio (b m : Nat) (e : Int) :
    ((ratio b m e).1 : ℚ) / (ratio b m e).2 = m * (b : ℚ) ^ e := by
  unfold ratio
  split
  case isTrue he =>
    obtain ⟨n, rfl⟩ := Int.eq_ofNat_of_zero_le he
    simp
  case isFalse he =>
    obtain ⟨n, rfl⟩ : ∃ n : Nat, e = -(n : Int) := ⟨(-e).toNat, by omega⟩
    simp [div_eq_mul_inv]

/-- Comparing with a power across the denominators is comparing with the power. -/
theorem mul_ratio_le_iff {b : Nat} (hb : 0 < b) (num : Nat) {den : Nat} (hd : 0 < den)
    (e : Int) :
    den * (ratio b 1 e).1 ≤ num * (ratio b 1 e).2 ↔ (b : ℚ) ^ e ≤ num / den := by
  have hr : (0 : ℚ) < (ratio b 1 e).2 := by exact_mod_cast ratio_snd_pos hb 1 e
  have hd' : (0 : ℚ) < den := by exact_mod_cast hd
  have hp := div_ratio b 1 e
  rw [Nat.cast_one, one_mul] at hp
  rw [← hp, div_le_div_iff₀ hr hd', ← Nat.cast_mul, ← Nat.cast_mul, Nat.cast_le, mul_comm den]

/-- The quotient of a scaled ratio is the scaled quotient. -/
theorem div_scaled (b num den : Nat) (e : Int) :
    ((num * (ratio b 1 e).2 : Nat) : ℚ) / (den * (ratio b 1 e).1 : Nat) =
      num / den / (b : ℚ) ^ e := by
  have hp := div_ratio b 1 e
  rw [Nat.cast_one, one_mul] at hp
  rw [← hp, Nat.cast_mul, Nat.cast_mul, div_div_div_eq]

/-- The integer logarithm is the exponent of the power below. -/
theorem log_eq_of_le_of_lt {b : Nat} (hb : 1 < b) {r : ℚ} {e : Int}
    (hle : (b : ℚ) ^ e ≤ r) (hlt : r < (b : ℚ) ^ (e + 1)) : Int.log b r = e := by
  have hr : 0 < r := lt_of_lt_of_le (zpow_pos (by exact_mod_cast Nat.zero_lt_of_lt hb) e) hle
  have h₁ := (Int.zpow_le_iff_le_log hb hr).mp hle
  have h₂ := (Int.lt_zpow_iff_log_lt hb hr).mp hlt
  omega

/-- The binary logarithms of two numbers hold their quotient between two powers. -/
theorem two_zpow_lt_div_lt {num den : Nat} (hn : 0 < num) (hd : 0 < den) :
    (2 : ℚ) ^ ((Nat.log2 num : Int) - Nat.log2 den - 1) < num / den ∧
      (num : ℚ) / den < 2 ^ ((Nat.log2 num : Int) - Nat.log2 den + 1) := by
  have hn₁ : (2 : ℚ) ^ Nat.log2 num ≤ num := by exact_mod_cast Nat.log2_self_le hn.ne'
  have hn₂ : (num : ℚ) < 2 ^ (Nat.log2 num + 1) := by exact_mod_cast Nat.lt_log2_self
  have hd₁ : (2 : ℚ) ^ Nat.log2 den ≤ den := by exact_mod_cast Nat.log2_self_le hd.ne'
  have hd₂ : (den : ℚ) < 2 ^ (Nat.log2 den + 1) := by exact_mod_cast Nat.lt_log2_self
  have hn' : (0 : ℚ) < num := by exact_mod_cast hn
  have hd' : (0 : ℚ) < den := by exact_mod_cast hd
  constructor
  · calc (2 : ℚ) ^ ((Nat.log2 num : Int) - Nat.log2 den - 1)
        = 2 ^ Nat.log2 num / 2 ^ (Nat.log2 den + 1) := by
          rw [← zpow_natCast, ← zpow_natCast, ← zpow_sub₀ (by norm_num)]
          congr 1
          push_cast
          ring
      _ ≤ num / 2 ^ (Nat.log2 den + 1) := by gcongr
      _ < num / den := by gcongr
  · calc (num : ℚ) / den ≤ num / 2 ^ Nat.log2 den := by gcongr
      _ < 2 ^ (Nat.log2 num + 1) / 2 ^ Nat.log2 den := by gcongr
      _ = 2 ^ ((Nat.log2 num : Int) - Nat.log2 den + 1) := by
          rw [← zpow_natCast, ← zpow_natCast, ← zpow_sub₀ (by norm_num)]
          congr 1
          push_cast
          ring

/-- The binary exponent of a quotient is its integer logarithm. -/
theorem binaryExponent_eq_log {num den : Nat} (hn : 0 < num) (hd : 0 < den) :
    binaryExponent num den = Int.log 2 ((num : ℚ) / den) := by
  obtain ⟨hlow, hhigh⟩ := two_zpow_lt_div_lt hn hd
  have hiff := mul_ratio_le_iff (b := 2) (by norm_num) num hd
    ((Nat.log2 num : Int) - Nat.log2 den)
  symm
  simp only [binaryExponent]
  split
  case isTrue hlt =>
    refine log_eq_of_le_of_lt (b := 2) (by norm_num) hlow.le ?_
    rw [sub_add_cancel]
    exact lt_of_not_ge fun hge => (not_le.mpr hlt) (hiff.mpr hge)
  case isFalse hge =>
    exact log_eq_of_le_of_lt (b := 2) (by norm_num) (hiff.mp (not_lt.mp hge)) hhigh

/-! ### To the nearest natural number -/

/-- A number that is not negative rounded to the nearest natural number, a tie to the even one. -/
def nearestNat (r : ℚ) : Nat :=
  if r - ⌊r⌋₊ < 1 / 2 then ⌊r⌋₊
  else if 1 / 2 < r - ⌊r⌋₊ then ⌊r⌋₊ + 1
  else if ⌊r⌋₊ % 2 = 0 then ⌊r⌋₊ else ⌊r⌋₊ + 1

/-- Rounding a division is rounding the quotient. -/
theorem roundDiv_eq_nearestNat (num : Nat) {den : Nat} (hd : 0 < den) :
    roundDiv num den = nearestNat ((num : ℚ) / den) := by
  have hd' : (0 : ℚ) < den := by exact_mod_cast hd
  have hrest : (num : ℚ) / den - ⌊(num : ℚ) / den⌋₊ = (num % den : Nat) / den := by
    have hsum : (num : ℚ) = den * (num / den : Nat) + (num % den : Nat) := by
      exact_mod_cast (Nat.div_add_mod num den).symm
    rw [Nat.floor_div_eq_div, eq_div_iff hd'.ne', sub_mul, div_mul_cancel₀ _ hd'.ne']
    linarith
  have hlt : ((num % den : Nat) : ℚ) / den < 1 / 2 ↔ 2 * (num % den) < den := by
    rw [div_lt_div_iff₀ hd' (by norm_num), one_mul, mul_comm]
    exact_mod_cast Iff.rfl
  have hgt : 1 / 2 < ((num % den : Nat) : ℚ) / den ↔ den < 2 * (num % den) := by
    rw [div_lt_div_iff₀ (by norm_num) hd', one_mul, mul_comm]
    exact_mod_cast Iff.rfl
  unfold nearestNat roundDiv
  simp only [hrest, hlt, hgt]
  simp only [Nat.floor_div_eq_div]

/-- The rounded number is one of the two neighbours. -/
theorem nearestNat_eq_or (r : ℚ) : nearestNat r = ⌊r⌋₊ ∨ nearestNat r = ⌊r⌋₊ + 1 := by
  unfold nearestNat
  split_ifs <;> simp

/-- Rounding goes at most half a unit. -/
theorem abs_nearestNat_sub_le {r : ℚ} (hr : 0 ≤ r) : |(nearestNat r : ℚ) - r| ≤ 1 / 2 := by
  have h₁ := Nat.floor_le hr
  have h₂ := Nat.lt_floor_add_one r
  unfold nearestNat
  rw [abs_le]
  split_ifs <;> push_cast <;> constructor <;> linarith

/-- A number less than half a unit away is the rounded number. -/
theorem nearestNat_eq_of_lt {r : ℚ} (hr : 0 ≤ r) {m : Nat} (h : |r - m| < 1 / 2) :
    nearestNat r = m := by
  have hround := abs_nearestNat_sub_le hr
  rw [abs_lt] at h
  rw [abs_le] at hround
  have h₁ : (nearestNat r : ℚ) < m + 1 := by linarith
  have h₂ : (m : ℚ) < nearestNat r + 1 := by linarith
  norm_cast at h₁ h₂
  omega

/-- Rounding keeps natural bounds from below. -/
theorem le_nearestNat {r : ℚ} {n : Nat} (h : (n : ℚ) ≤ r) : n ≤ nearestNat r := by
  have hfloor : n ≤ ⌊r⌋₊ := Nat.le_floor h
  rcases nearestNat_eq_or r with he | he <;> omega

/-- Rounding keeps natural bounds from above. -/
theorem nearestNat_le {r : ℚ} (hr : 0 ≤ r) {n : Nat} (h : r < n) : nearestNat r ≤ n := by
  have hfloor : ⌊r⌋₊ < n := (Nat.floor_lt hr).mpr h
  rcases nearestNat_eq_or r with he | he <;> omega

/-! ### To the nearest double -/

/-- The numbers of the format: of the ways to write a finite one, that with the largest significand
that fits. -/
def IsDouble : Binary64 → Prop
  | .finite _ m e =>
    m < 2 ^ 53 ∧ leastExponent ≤ e ∧ e ≤ greatestExponent ∧ (2 ^ 52 ≤ m ∨ e = leastExponent)
  | _ => True

instance (x : Binary64) : Decidable x.IsDouble := by
  unfold IsDouble
  split <;> infer_instance

/-- The exponent of the unit in which a positive number is rounded. -/
def unitExponent (r : ℚ) : Int := max (Int.log 2 r - 52) leastExponent

/-- A significand and an exponent as a number: a significand that has grown a bit too long is
halved, and a number that has become too large is infinite. -/
def packed (negative : Bool) (m : Nat) (e : Int) : Binary64 :=
  if m = 2 ^ 53 then
    if greatestExponent < e + 1 then .infinite negative else .finite negative (2 ^ 52) (e + 1)
  else if greatestExponent < e then .infinite negative
  else .finite negative m e

/-- The double nearest to `± r`. -/
def nearest (negative : Bool) (r : ℚ) : Binary64 :=
  if r ≤ 0 then zero negative
  else packed negative (nearestNat (r / 2 ^ unitExponent r)) (unitExponent r)

/-- The rounding of a quotient depends on the quotient alone. -/
theorem ofRatio_eq_nearest (negative : Bool) (num : Nat) {den : Nat} (hd : 0 < den) :
    ofRatio negative num den = nearest negative ((num : ℚ) / den) := by
  unfold ofRatio nearest
  split
  case isTrue hn => simp [hn]
  case isFalse hn =>
    have hpos : (0 : ℚ) < num / den :=
      div_pos (by exact_mod_cast Nat.pos_of_ne_zero hn) (by exact_mod_cast hd)
    have hunit : max (binaryExponent num den - (precision - 1 : Nat)) leastExponent =
        unitExponent ((num : ℚ) / den) := by
      rw [binaryExponent_eq_log (Nat.pos_of_ne_zero hn) hd]
      rfl
    rw [if_neg (not_le.mpr hpos)]
    simp only [hunit]
    rw [roundDiv_eq_nearestNat _ (Nat.mul_pos hd (ratio_fst_pos (by norm_num) one_pos _)),
      div_scaled 2]
    simp only [packed, precision, Nat.pow_eq, Nat.cast_ofNat]
    by_cases hcarry : nearestNat ((num : ℚ) / den / 2 ^ unitExponent ((num : ℚ) / den)) = 2 ^ 53 <;>
      simp only [hcarry, if_true, if_false]

/-- Rounding goes the same way on both sides of zero. -/
theorem nearest_true (r : ℚ) : nearest true r = (nearest false r).neg := by
  unfold nearest packed zero
  split_ifs <;> rfl

/-- In its unit a positive number is below `2 ^ 53`, and it has 53 bits there unless the unit is the
least one. -/
theorem div_unit_bounds {r : ℚ} (hr : 0 < r) :
    r / 2 ^ unitExponent r < (2 ^ 53 : Nat) ∧
      (((2 ^ 52 : Nat) : ℚ) ≤ r / 2 ^ unitExponent r ∨ unitExponent r = leastExponent) := by
  have hlow : (2 : ℚ) ^ Int.log 2 r ≤ r := Int.zpow_log_le_self (by norm_num) hr
  have hhigh : r < (2 : ℚ) ^ (Int.log 2 r + 1) := Int.lt_zpow_succ_log_self (by norm_num) r
  have hunit : (0 : ℚ) < 2 ^ unitExponent r := by positivity
  constructor
  · rw [div_lt_iff₀ hunit]
    calc r < (2 : ℚ) ^ (Int.log 2 r + 1) := hhigh
      _ ≤ 2 ^ (53 + unitExponent r) :=
          zpow_le_zpow_right₀ (by norm_num) (by unfold unitExponent; omega)
      _ = (2 ^ 53 : Nat) * 2 ^ unitExponent r := by rw [zpow_add₀ (by norm_num)]; norm_num
  · rcases le_total leastExponent (Int.log 2 r - 52) with h | h
    · left
      rw [le_div_iff₀ hunit]
      calc ((2 ^ 52 : Nat) : ℚ) * 2 ^ unitExponent r = 2 ^ (52 + unitExponent r) := by
            rw [zpow_add₀ (by norm_num)]; norm_num
        _ = 2 ^ Int.log 2 r := by congr 1; unfold unitExponent; omega
        _ ≤ r := hlow
    · right
      unfold unitExponent
      omega

/-- What rounding gives is a double. -/
theorem isDouble_nearest (negative : Bool) (r : ℚ) : (nearest negative r).IsDouble := by
  unfold nearest
  split
  case isTrue => simp [zero, IsDouble, leastExponent, greatestExponent]
  case isFalse hr =>
    rw [not_le] at hr
    obtain ⟨hhigh, hlow⟩ := div_unit_bounds hr
    have hle := nearestNat_le (by positivity) hhigh
    have hge : 2 ^ 52 ≤ nearestNat (r / 2 ^ unitExponent r) ∨ unitExponent r = leastExponent :=
      hlow.imp_left le_nearestNat
    have hleast : leastExponent ≤ unitExponent r := le_max_right _ _
    unfold packed
    split_ifs <;> simp only [IsDouble] <;> omega

/-! ### Arithmetic -/

theorem isDouble_zero (negative : Bool) : (zero negative).IsDouble := by
  simp [zero, IsDouble, leastExponent, greatestExponent]

theorem isDouble_ofRatio (negative : Bool) (num : Nat) {den : Nat} (hd : 0 < den) :
    (ofRatio negative num den).IsDouble := by
  rw [ofRatio_eq_nearest negative num hd]
  exact isDouble_nearest negative _

theorem IsDouble.neg {x : Binary64} (hx : x.IsDouble) : x.neg.IsDouble := by
  cases x with
  | nan | infinite _ => trivial
  | finite _ _ _ => exact hx

/-- A product is a double, because it is rounded. -/
theorem isDouble_mul (x y : Binary64) : (x.mul y).IsDouble := by
  unfold mul
  split
  case h_6 => exact isDouble_ofRatio _ _ (ratio_snd_pos Nat.two_pos _ _)
  case h_4 | h_5 => split <;> trivial
  all_goals trivial

/-- A sum is a double, because it is rounded. -/
theorem isDouble_add (x y : Binary64) : (x.add y).IsDouble := by
  unfold add
  split
  case h_6 =>
    exact iteInduction (motive := IsDouble) (fun _ => isDouble_zero _)
      fun _ => isDouble_ofRatio _ _ (ratio_snd_pos Nat.two_pos _ _)
  case h_3 => split <;> trivial
  all_goals trivial

/-- A decimal numeral stands for a double. -/
theorem isDouble_ofDecimal (negative : Bool) (digits : Nat) (exponent : Int) :
    (ofDecimal negative digits exponent).IsDouble := by
  unfold ofDecimal
  dsimp only
  split_ifs
  · exact isDouble_zero negative
  · trivial
  · exact isDouble_zero negative
  · exact isDouble_ofRatio _ _ (ratio_snd_pos (by norm_num) _ _)

/-- The unit of a number that is at least `2 ^ 52` units of an exponent and less than twice that is
that exponent. -/
theorem unitExponent_eq {r : ℚ} {e : Int} (he : leastExponent ≤ e)
    (hlow : 2 ^ (52 + e) ≤ r ∨ e = leastExponent) (hhigh : r < 2 ^ (53 + e)) (hr : 0 < r) :
    unitExponent r = e := by
  have hlog : Int.log 2 r < 53 + e :=
    (Int.lt_zpow_iff_log_lt (b := 2) (by norm_num) hr).mp (by exact_mod_cast hhigh)
  rcases hlow with hlow | rfl
  · have := (Int.zpow_le_iff_le_log (b := 2) (by norm_num) hr).mp (by exact_mod_cast hlow)
    unfold unitExponent
    omega
  · unfold unitExponent
    omega

/-- A number that differs from a positive double by less than a part in `2 ^ 54` of it is rounded to
it. -/
theorem nearest_eq_of_near {negative : Bool} {m : Nat} {e : Int} (hm : 0 < m)
    (hx : (finite negative m e).IsDouble) {r : ℚ}
    (h : |r - m * 2 ^ e| < m * 2 ^ e / 2 ^ 54) : nearest negative r = .finite negative m e := by
  obtain ⟨hm₁, he₁, he₂, hcanon⟩ := hx
  have hu : (0 : ℚ) < 2 ^ e := by positivity
  have hm' : (1 : ℚ) ≤ m := by exact_mod_cast hm
  have hm₁' : (m : ℚ) + 1 ≤ 2 ^ 53 := by exact_mod_cast hm₁
  -- everything in units of the number
  obtain ⟨s, rfl⟩ : ∃ s : ℚ, r = s * 2 ^ e := ⟨r / 2 ^ e, (div_mul_cancel₀ r hu.ne').symm⟩
  have hs : |s - m| < m / 2 ^ 54 := by
    rw [← sub_mul, abs_mul, abs_of_pos hu, mul_div_right_comm] at h
    exact lt_of_mul_lt_mul_right h hu.le
  have hs' := abs_lt.mp hs
  have hspos : 0 < s := by linarith
  have hpos : 0 < s * 2 ^ e := by positivity
  unfold nearest
  rw [if_neg (not_le.mpr hpos)]
  by_cases hlow : 2 ^ (52 + e) ≤ s * 2 ^ e ∨ e = leastExponent
  · have hunit : unitExponent (s * 2 ^ e) = e := by
      refine unitExponent_eq he₁ hlow ?_ hpos
      rw [zpow_add₀ (by norm_num)]
      gcongr
      norm_num at hm₁' ⊢
      linarith
    have hround : nearestNat s = m := nearestNat_eq_of_lt hspos.le (by
      refine hs.trans_le ?_
      linarith)
    rw [hunit, mul_div_cancel_right₀ _ hu.ne', hround]
    unfold packed
    rw [if_neg (by omega), if_neg (by omega)]
  · -- the number is a power of two and `r` is below it, where the unit is half as large
    rw [not_or, not_le, zpow_add₀ (by norm_num)] at hlow
    obtain ⟨hbelow, hleast⟩ := hlow
    have hbelow' : s < 2 ^ 52 := by
      have := lt_of_mul_lt_mul_right hbelow hu.le
      exact_mod_cast this
    have hpower : m = 2 ^ 52 := by
      have hlt : (m : ℚ) < (2 ^ 52 + 1 : Nat) := by push_cast; linarith
      have := (Nat.cast_lt (α := ℚ)).mp hlt
      omega
    subst hpower
    push_cast at hs hs' hm₁'
    have hhalf : s * 2 ^ e = 2 * s * 2 ^ (e - 1) := by
      rw [zpow_sub_one₀ (by norm_num)]
      ring
    have hunit : unitExponent (s * 2 ^ e) = e - 1 := by
      refine unitExponent_eq (by omega) (.inl ?_) ?_ hpos
      · rw [hhalf, zpow_add₀ (by norm_num)]
        gcongr
        norm_num at hs' ⊢
        linarith
      · rw [hhalf, zpow_add₀ (by norm_num)]
        gcongr
        norm_num at hbelow' ⊢
        linarith
    have hround : nearestNat (2 * s) = 2 ^ 53 := nearestNat_eq_of_lt (by linarith) (by
      rw [abs_lt]
      push_cast
      constructor <;> linarith)
    rw [hunit, hhalf, mul_div_cancel_right₀ _ (by positivity), hround]
    simp only [packed, if_true, sub_add_cancel]
    rw [if_neg (by omega)]

/-- A number beyond the finite ones is rounded to an infinity. -/
theorem nearest_eq_infinite {r : ℚ} (h : 2 ^ (1024 : Int) ≤ r) (negative : Bool) :
    nearest negative r = .infinite negative := by
  have hpos : 0 < r := lt_of_lt_of_le (by positivity) h
  have hlog : 1024 ≤ Int.log 2 r :=
    (Int.zpow_le_iff_le_log (b := 2) (by norm_num) hpos).mp (by exact_mod_cast h)
  have hunit : greatestExponent < unitExponent r := by
    unfold unitExponent greatestExponent
    omega
  unfold nearest packed
  rw [if_neg (not_le.mpr hpos), if_pos (hunit.trans (lt_add_one _)), if_pos hunit, ite_self]

/-- A number that is not negative and less than half the least double is rounded to zero. -/
theorem nearest_eq_zero {r : ℚ} (h : r < 2 ^ (-1075 : Int)) (negative : Bool) :
    nearest negative r = zero negative := by
  unfold nearest
  split
  case isTrue => rfl
  case isFalse hr =>
    rw [not_le] at hr
    have hlog : Int.log 2 r < -1075 :=
      (Int.lt_zpow_iff_log_lt (b := 2) (by norm_num) hr).mp (by exact_mod_cast h)
    have hunit : unitExponent r = -1074 := by
      unfold unitExponent leastExponent
      omega
    have hsmall : r / 2 ^ (-1074 : Int) < 1 / 2 := by
      rw [div_lt_iff₀ (by positivity)]
      calc r < 2 ^ (-1075 : Int) := h
        _ = 1 / 2 * 2 ^ (-1074 : Int) := by
          rw [show (-1075 : Int) = -1 + -1074 by norm_num, zpow_add₀ (by norm_num)]
          norm_num
    have hround : nearestNat (r / 2 ^ (-1074 : Int)) = 0 := nearestNat_eq_of_lt (by positivity) (by
      rw [Nat.cast_zero, sub_zero, abs_of_pos (by positivity)]
      exact hsmall)
    rw [hunit, hround]
    rfl

end FormPublisher.Binary64
