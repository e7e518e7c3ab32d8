import FormPublisher.Text.Base64
import FormPublisher.Text.Case
import FormPublisher.Value
import FormPublisher.Yaml.Schema

/-!
# Scalars from text

`Tag.read` reads the text of a scalar as a value of its type.  A tag may be given to any text, so a
text need not fit the pattern of its type; then either the text is read by the rules below as far as
they go or it is no literal.

Integers and decimals may be written in base sixty, the most significant place first, with colons
between the places.
-/

namespace FormPublisher.Yaml

/-- What a literal denotes. -/
abbrev Literal := Except LiteralError Scalar

/-- A text without its underscores. -/
def dropUnderscores (cs : List Char) : List Char := cs.filter (· ≠ '_')

/-- The parts of a text between its colons. -/
def placesOf (cs : List Char) : List (List Char) := cs.splitOnP (· = ':')

/-- An integer without sign and underscores, which begins with the mark of its base, or with a zero
if the base is eight. -/
def readMagnitude (cs : List Char) : Except LiteralError Int :=
  match cs with
  | [] => .error .empty
  | ['0'] => .ok 0
  | '0' :: 'b' :: rest => integerIn 2 rest
  | '0' :: 'x' :: rest => integerIn 16 rest
  | '0' :: _ => integerIn 8 cs
  | _ =>
    if cs.contains ':' then do
      let places ← (placesOf cs).mapM (integerIn 10)
      return places.foldl (fun n place => 60 * n + place) 0
    else integerIn 10 cs

/-- An integer. -/
def readInteger (cs : List Char) : Except LiteralError Int :=
  match dropUnderscores cs with
  | [] => .error .empty
  | '-' :: rest => (readMagnitude rest).map Neg.neg
  | '+' :: rest => readMagnitude rest
  | rest => readMagnitude rest

/-- A decimal by the rules for decimals; the error names the text. -/
def decimalOf (cs : List Char) : Except LiteralError Binary64 :=
  match Numeral.readFloat? cs with
  | some x => .ok x
  | none => .error (.float (String.ofList cs))

/-- The sum of places of base sixty from the least significant on, rounded after every step.  The
weight of a place must not lie beyond the finite numbers. -/
def sumPlaces (weight : Int) (sum : Binary64) : List Binary64 → Except LiteralError Binary64
  | [] => .ok sum
  | x :: xs =>
    match Binary64.ofInt weight with
    | .infinite _ => .error .overflow
    | w => sumPlaces (60 * weight) (sum.add (x.mul w)) xs

/-- A decimal without sign and underscores and in small letters. -/
def readAbsolute (cs : List Char) : Except LiteralError Binary64 :=
  if cs = ".inf".toList then .ok (.infinite false)
  else if cs = ".nan".toList then .ok .nan
  else if cs.contains ':' then do
    let places ← (placesOf cs).mapM decimalOf
    sumPlaces 1 (Binary64.zero false) places.reverse
  else decimalOf cs

/-- The text of a decimal without underscores and in small letters. -/
def decimalText (cs : List Char) : List Char :=
  (Text.toLower (String.ofList (dropUnderscores cs))).toList

/-- A decimal. -/
def readDecimal (cs : List Char) : Except LiteralError Binary64 :=
  match decimalText cs with
  | [] => .error .empty
  | '-' :: rest => (readAbsolute rest).map Binary64.neg
  | '+' :: rest => readAbsolute rest
  | rest => readAbsolute rest

/-- A truth value; its word may be in letters of any case. -/
def readTruth (s : String) : Except LiteralError Bool :=
  let word := Text.toLower s
  if ["yes", "true", "on"].contains word then .ok true
  else if ["no", "false", "off"].contains word then .ok false
  else .error (.truth word)

/-- A day or a time. -/
def readMoment (s : String) : Literal :=
  match Timestamp.read? (dropFinalBreak s.toList) with
  | none => .error .moment
  | some t =>
    match t.moment with
    | .ok (.inl d) => .ok (.date d)
    | .ok (.inr t) => .ok (.time t)
    | .error cause => .error (.calendar cause)

/-- The bytes of a text in base sixty-four, which must be ASCII. -/
def readBytes (s : String) : Except Flaw Scalar :=
  if s.toList.all fun c => c.toNat < 128 then
    match Text.readBase64? s.toList with
    | some bytes => .ok (.bytes bytes)
    | none => .error .malformed
  else .error .malformed

/-- Whether the values of a type are scalars. -/
def Tag.isScalar : Tag → Bool
  | null | bool | int | float | text | binary | timestamp => true
  | _ => false

/-- Whether the values of a type are collections. -/
def Tag.isCollection : Tag → Bool
  | sequence | mapping | orderedMapping | pairs | set => true
  | _ => false

/-- The scalar of a type that a text denotes. -/
def Tag.read (t : Tag) (s : String) : Except Flaw Scalar :=
  let literal (r : Literal) : Except Flaw Scalar := r.mapError .literal
  match t with
  | null => .ok .null
  | bool => literal (.bool <$> readTruth s)
  | int => literal (.int <$> readInteger s.toList)
  | float => literal (.float <$> readDecimal s.toList)
  | text => .ok (.text s)
  | binary => readBytes s
  | timestamp => literal (readMoment s)
  | _ => .error .malformed

end FormPublisher.Yaml
