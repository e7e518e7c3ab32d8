/-!
# Double-precision numbers

A `Binary64` is a double-precision number given by its exact value: a sign, a significand and a
power of two, beside the two infinities and the number that is no number.  All arithmetic here is
exact arithmetic on natural numbers followed by one rounding, `Binary64.ofRatio`, which goes to
the nearest number and on a tie to the one with the even significand.

`Binary64.ofDecimal` reads a decimal numeral that way.  Two numbers denote the same value exactly
when `Binary64.sameValue` holds, so the two zeros do.
-/

namespace FormPublisher

/-- A double-precision number; a finite one is `± significand · 2 ^ exponent`. -/
inductive Binary64 where
  | nan
  | infinite (negative : Bool)
  | finite (negative : Bool) (significand : Nat) (exponent : Int)
  deriving DecidableEq, Repr, Inhabited

namespace Binary64

/-! ### The format -/

/-- Significands have at most this many bits. -/
def precision : Nat := 53

/-- The exponent of the smallest positive number. -/
def leastExponent : Int := -1074

/-- The exponent of the largest finite number. -/
def greatestExponent : Int := 971

/-- The zero of a sign. -/
def zero (negative : Bool) : Binary64 := .finite negative 0 leastExponent

/-! ### Rounding -/

/-- The quotient `num / den` rounded to the nearest natural number, a tie to the even one. -/
def roundDiv (num den : Nat) : Nat :=
  let q := num / den
  let twice := 2 * (num % den)
  if twice < den then q
  else if den < twice then q + 1
  else if q % 2 = 0 then q else q + 1

/-- The pair `(num, den)` with `num / den = m · base ^ e`. -/
def ratio (base m : Nat) (e : Int) : Nat × Nat :=
  if 0 ≤ e then (m * Nat.pow base e.toNat, 1) else (m, Nat.pow base (-e).toNat)

/-- The exponent `e` with `2 ^ e ≤ num / den < 2 ^ (e + 1)`, for positive `num` and `den`. -/
def binaryExponent (num den : Nat) : Int :=
  let e : Int := (Nat.log2 num : Int) - (Nat.log2 den : Int)
  let power := ratio 2 1 e
  if num * power.2 < den * power.1 then e - 1 else e

/-- The number nearest to `± num / den`, for a positive `den`. -/
def ofRatio (negative : Bool) (num den : Nat) : Binary64 :=
  if num = 0 then zero negative
  else
    let e := max (binaryExponent num den - (precision - 1 : Nat)) leastExponent
    let unit := ratio 2 1 e
    let m := roundDiv (num * unit.2) (den * unit.1)
    let carried :=
      if m = Nat.pow 2 precision then (Nat.pow 2 (precision - 1), e + 1) else (m, e)
    if greatestExponent < carried.2 then .infinite negative
    else .finite negative carried.1 carried.2

/-- The number nearest to an integer, an infinity for one beyond the finite numbers. -/
def ofInt (n : Int) : Binary64 := ofRatio (n < 0) n.natAbs 1

/-- The number nearest to `± digits · 10 ^ exponent`.  Far outside the range of the finite numbers
the power is not computed: the answer is an infinity or a zero there anyway. -/
def ofDecimal (negative : Bool) (digits : Nat) (exponent : Int) : Binary64 :=
  let magnitude : Int := exponent + (Nat.log2 digits * 30103 / 100000 : Nat)
  if digits = 0 then zero negative
  else if 310 < magnitude then .infinite negative
  else if magnitude < -330 then zero negative
  else
    let r := ratio 10 digits exponent
    ofRatio negative r.1 r.2

/-! ### Value and arithmetic -/

/-- Whether the number is one of the two zeros. -/
def isZero : Binary64 → Bool
  | .finite _ m _ => m == 0
  | _ => false

/-- The exact value of a finite number as a signed numerator over a positive denominator. -/
def value? : Binary64 → Option (Int × Nat)
  | .finite negative m e =>
    let r := ratio 2 m e
    some (if negative then -(r.1 : Int) else r.1, r.2)
  | _ => none

/-- Two numbers have the same value; the number that is no number has no value, so it differs even
from itself. -/
def sameValue (x y : Binary64) : Bool :=
  match x, y with
  | .finite .., .finite .. =>
    match x.value?, y.value? with
    | some a, some b => a.1 * b.2 == b.1 * a.2
    | _, _ => false
  | .infinite s, .infinite t => s == t
  | _, _ => false

/-- A number and an integer have the same value. -/
def sameInt (x : Binary64) (n : Int) : Bool :=
  match x.value? with
  | some a => a.1 == n * a.2
  | none => false

/-- The number of the opposite sign. -/
def neg : Binary64 → Binary64
  | .nan => .nan
  | .infinite negative => .infinite !negative
  | .finite negative m e => .finite (!negative) m e

/-- The product of two numbers, rounded once. -/
def mul : Binary64 → Binary64 → Binary64
  | .nan, _ | _, .nan => .nan
  | .infinite s, .infinite t => .infinite (s != t)
  | .infinite s, .finite t m _ | .finite s m _, .infinite t =>
    if m = 0 then .nan else .infinite (s != t)
  | .finite s m e, .finite t n f =>
    let r := ratio 2 (m * n) (e + f)
    ofRatio (s != t) r.1 r.2

/-- The sum of two numbers, rounded once; opposite terms cancel to the positive zero. -/
def add : Binary64 → Binary64 → Binary64
  | .nan, _ | _, .nan => .nan
  | .infinite s, .infinite t => if s = t then .infinite s else .nan
  | .infinite s, .finite .. | .finite .., .infinite s => .infinite s
  | .finite s m e, .finite t n f =>
    let low := min e f
    let a : Int := (m * Nat.pow 2 (e - low).toNat : Nat)
    let b : Int := (n * Nat.pow 2 (f - low).toNat : Nat)
    let total := (if s then -a else a) + (if t then -b else b)
    if total = 0 then zero (s && t)
    else
      let r := ratio 2 total.natAbs low
      ofRatio (total < 0) r.1 r.2

end Binary64

end FormPublisher
