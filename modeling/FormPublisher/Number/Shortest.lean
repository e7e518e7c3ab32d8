import FormPublisher.Number.Binary64

/-!
# The shortest decimal text of a double-precision number

`Binary64.shortest` gives the fewest decimal digits that read back as the number, and among those
the ones nearest to it.  For each count of digits the two neighbours of the number on that decimal
grid are tried: if any point of the grid reads back, one of the neighbours does.

`Binary64.write` lays the digits out.  The layout is one record, `FloatLayout`: which decimal
exponents are written positionally, how many digits an exponent has, and the three names.
-/

namespace FormPublisher

/-- The decimal `digits · 10 ^ exponent`. -/
structure Decimal where
  digits : Nat
  exponent : Int
  deriving DecidableEq, Repr, Inhabited

/-- The decimal without the zeros at its end, of which at most `fuel` are taken away. -/
def Decimal.trim : Nat → Decimal → Decimal
  | 0, d => d
  | fuel + 1, d =>
    if d.digits ≠ 0 && d.digits % 10 = 0 then trim fuel ⟨d.digits / 10, d.exponent + 1⟩ else d

/-- How a double-precision number is laid out as text. -/
structure FloatLayout where
  /-- Numbers of a smaller decimal exponent have an exponent part. -/
  leastPositional : Int := -4
  /-- Numbers of this decimal exponent or a greater one have an exponent part. -/
  positionalLimit : Int := 16
  /-- An exponent has at least this many digits. -/
  exponentDigits : Nat := 2
  nan : String
  infinity : String

namespace Binary64

/-! ### Digits -/

/-- The exponent `k` with `10 ^ k ≤ num / den < 10 ^ (k + 1)`, for positive `num` and `den`: an
estimate from the binary exponent is at most two too small, and is raised. -/
def decimalExponent (num den : Nat) : Int :=
  let reaches (k : Int) : Bool :=
    let power := ratio 10 1 k
    den * power.1 ≤ num * power.2
  let estimate := binaryExponent num den * 30103 / 100000 - 1
  if reaches (estimate + 3) then estimate + 3
  else if reaches (estimate + 2) then estimate + 2
  else if reaches (estimate + 1) then estimate + 1
  else estimate

/-- The neighbours of `num / den` on the grid of multiples of `10 ^ scale`, the nearer one first
and of two equally near ones the even one. -/
def neighbours (num den : Nat) (scale : Int) : List Nat :=
  let unit := ratio 10 1 scale
  let n := num * unit.2
  let d := den * unit.1
  let low := n / d
  if roundDiv n d = low then [low, low + 1] else [low + 1, low]

/-- The first of the counts of digits from `count` on that has a decimal which reads back. -/
def shortestFrom (x : Binary64) (num den : Nat) (k : Int) : Nat → Nat → Decimal
  | 0, count => ⟨(neighbours num den (k + 1 - count)).headD 0, k + 1 - count⟩
  | fuel + 1, count =>
    let scale := k + 1 - (count : Int)
    match (neighbours num den scale).find? fun q => ofDecimal false q scale == x with
    | some q => ⟨q, scale⟩
    | none => shortestFrom x num den k fuel (count + 1)

/-- The shortest decimal that reads back as the positive finite number `m · 2 ^ e`; seventeen
digits always do. -/
def shortest (m : Nat) (e : Int) : Decimal :=
  let r := ratio 2 m e
  Decimal.trim 20
    (shortestFrom (.finite false m e) r.1 r.2 (decimalExponent r.1 r.2) 16 1)

/-! ### Text -/

/-- So many zeros. -/
def zeros (n : Nat) : String := String.ofList (List.replicate n '0')

/-- The exponent part of a decimal exponent: a sign and at least so many digits. -/
def writeExponent (width : Nat) (e : Int) : String :=
  let digits := toString e.natAbs
  "e" ++ (if e < 0 then "-" else "+") ++ zeros (width - digits.length) ++ digits

/-- The text of a positive decimal. -/
def writeDecimal (layout : FloatLayout) (d : Decimal) : String :=
  let digits := toString d.digits
  let count := digits.length
  let k : Int := d.exponent + count - 1
  if layout.leastPositional ≤ k && k < layout.positionalLimit then
    if k < 0 then "0." ++ zeros (-k - 1).toNat ++ digits
    else if count ≤ k.toNat + 1 then digits ++ zeros (k.toNat + 1 - count) ++ ".0"
    else
      let split := digits.toList.splitAt (k.toNat + 1)
      String.ofList split.1 ++ "." ++ String.ofList split.2
  else
    match digits.toList with
    | [] => ""
    | [c] => String.singleton c ++ writeExponent layout.exponentDigits k
    | c :: cs =>
      String.singleton c ++ "." ++ String.ofList cs ++ writeExponent layout.exponentDigits k

/-- The text of a number. -/
def write (layout : FloatLayout) : Binary64 → String
  | .nan => layout.nan
  | .infinite negative => (if negative then "-" else "") ++ layout.infinity
  | .finite negative m e =>
    (if negative then "-" else "") ++
      if m = 0 then "0.0" else writeDecimal layout (shortest m e)

end Binary64

end FormPublisher
