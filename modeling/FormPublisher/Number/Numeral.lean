import FormPublisher.Number.Binary64
import FormPublisher.Text.Blank
import FormPublisher.Text.Digit

/-!
# Numerals

Reading integers and decimals from text.  `Numeral.readInt` reads an integer in a base from two to
thirty-six: white space around it, a sign, the mark of the base (`0b`, `0o`, `0x`), digits of any
script, and single underscores between digits.  `Numeral.readFloat?` reads a decimal, or one of the
names of the infinities and of the number that is no number.

Between text and integers there is a limit on the number of digits, unless the base is a power of
two, where the work grows with the number of digits alone.  The digits are counted before what
follows them is looked at.
-/

namespace FormPublisher.Numeral

/-! ### Integers -/

/-- An integer has at most this many digits where it is read from or written as text. -/
def digitLimit : Nat := 4300

/-- The least number with more digits than the limit. -/
def writableBound : Nat := Nat.pow 10 digitLimit

/-- Whether an integer can be written as text. -/
def isWritable (n : Int) : Bool := n.natAbs < writableBound

/-- Why a text is not read as an integer: it is none, or it has too many digits. -/
inductive Defect where
  | malformed
  | tooLong (digits : Nat)
  deriving DecidableEq, Repr, Inhabited

/-- The digits of a base at the start of a text, with single underscores between them: their value
and their number, behind those of digits before them, and what follows.  `ready` says that the
character before was a digit; there must be one in front of every underscore and at the end. -/
def readDigits? (base value count : Nat) (ready : Bool) (cs : List Char) :
    Option (Nat × Nat × List Char) :=
  let stop := if ready then some (value, count, cs) else none
  match cs with
  | [] => stop
  | c :: rest =>
    if c = '_' then if ready then readDigits? base value count false rest else none
    else
      match Text.alphanumericValue? c with
      | some d =>
        if d < base then readDigits? base (value * base + d) (count + 1) true rest else stop
      | none => stop

/-- The letter that marks a base after a leading zero. -/
def baseMark? : Nat → Option Char
  | 2 => some 'b'
  | 8 => some 'o'
  | 16 => some 'x'
  | _ => none

/-- The digits without the mark of the base and the underscore that may follow it. -/
def dropBaseMark (base : Nat) : List Char → List Char
  | '0' :: m :: cs =>
    if baseMark? base = some m.toLower then
      match cs with
      | '_' :: rest => rest
      | _ => cs
    else '0' :: m :: cs
  | cs => cs

/-- A leading sign, negative or not, and what follows it. -/
def splitSign : List Char → Bool × List Char
  | '-' :: cs => (true, cs)
  | '+' :: cs => (false, cs)
  | cs => (false, cs)

/-- Whether the number of digits is limited in a base. -/
def isLimited (base : Nat) : Bool := base &&& (base - 1) != 0

/-- The integer that a text denotes in a base. -/
def readInt (base : Nat) (cs : List Char) : Except Defect Int :=
  let s := splitSign (Text.trimBlank cs)
  match readDigits? base 0 0 false (dropBaseMark base s.2) with
  | none => .error .malformed
  | some (n, count, rest) =>
    if isLimited base && digitLimit < count then .error (.tooLong count)
    else if rest.isEmpty then .ok (if s.1 then -(n : Int) else n)
    else .error .malformed

/-! ### Decimals -/

/-- The number that decimal digits denote. -/
def ofDigits (cs : List Char) : Nat := cs.foldl (fun n c => 10 * n + (c.toNat - 48)) 0

/-- The number `± whole . fraction · 10 ^ exponent`. -/
def floatOf (negative : Bool) (whole fraction : List Char) (exponent : Int) : Binary64 :=
  Binary64.ofDecimal negative (ofDigits (whole ++ fraction)) (exponent - fraction.length)

/-- An exponent part: an `e`, a sign that may be left out, and digits; zero when there is none. -/
def readExponent? : List Char → Option Int
  | [] => some 0
  | c :: cs =>
    let s := splitSign cs
    if c.toLower = 'e' ∧ s.2 ≠ [] ∧ s.2.all Char.isDigit then
      some (if s.1 then -(ofDigits s.2 : Int) else ofDigits s.2)
    else none

/-- An unsigned decimal with at least one digit. -/
def readDecimal? (negative : Bool) (cs : List Char) : Option Binary64 :=
  let whole := cs.takeWhile Char.isDigit
  let rest := cs.dropWhile Char.isDigit
  let fraction := match rest with
    | '.' :: more => more.takeWhile Char.isDigit
    | _ => []
  let tail := match rest with
    | '.' :: more => more.dropWhile Char.isDigit
    | _ => rest
  if whole.isEmpty && fraction.isEmpty then none
  else (readExponent? tail).map (floatOf negative whole fraction)

/-- A digit of any script as a digit of ASCII. -/
def asciiDigit (c : Char) : Char :=
  match Text.digitValue? c with
  | some d => Char.ofNat (48 + d)
  | none => c

/-- The number that a text denotes. -/
def readFloat? (cs : List Char) : Option Binary64 :=
  let s := splitSign ((Text.trimBlank cs).map asciiDigit)
  let name := String.ofList (s.2.map Char.toLower)
  if name = "inf" ∨ name = "infinity" then some (.infinite s.1)
  else if name = "nan" then some .nan
  else readDecimal? s.1 s.2

end FormPublisher.Numeral
