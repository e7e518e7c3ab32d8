import FormPublisher.Yaml.Tag
import FormPublisher.Yaml.Timestamp

/-!
# Types of plain scalars

`suggestedTag` finds the type of a plain scalar from its text.  The patterns are those of YAML 1.1:
truth values have several words; integers have a base of two, eight, ten, sixteen or sixty; decimals
have a point, and an exponent has a sign; underscores may stand between digits.  A text that fits no
pattern is a text.
-/

namespace FormPublisher.Yaml

/-! ### Patterns -/

/-- The words for truth values. -/
def truthWords : List String :=
  ["yes", "Yes", "YES", "no", "No", "NO", "true", "True", "TRUE", "false", "False", "FALSE", "on",
    "On", "ON", "off", "Off", "OFF"]

/-- The words for nothing. -/
def nullWords : List String := ["~", "null", "Null", "NULL"]

/-- The words for infinity and for what is no number; infinity may have a sign. -/
def infinityWords : List String := [".inf", ".Inf", ".INF"]

/-- The words for what is no number. -/
def nanWords : List String := [".nan", ".NaN", ".NAN"]

/-- A text without a sign in front. -/
def dropSign : List Char → List Char
  | c :: cs => if c = '-' ∨ c = '+' then cs else c :: cs
  | [] => []

/-- A decimal digit or an underscore. -/
def isSpacedDigit (c : Char) : Bool := c.isDigit || c = '_'

/-- Whether a text is an exponent with a sign, or nothing. -/
def isExponent : List Char → Bool
  | [] => true
  | e :: s :: cs =>
    (e = 'e' || e = 'E') && (s = '-' || s = '+') && !cs.isEmpty && cs.all Char.isDigit
  | _ => false

/-- Whether a text is one or more places of base sixty, each behind a colon. -/
def areSixtieths : List Char → Bool
  | ':' :: a :: b :: cs =>
    if b = ':' then a.isDigit && areSixtieths (b :: cs)
    else
      '0' ≤ a && a ≤ '5' && b.isDigit && (cs.isEmpty || areSixtieths cs)
  | [':', a] => a.isDigit
  | _ => false

/-- Whether a text is a decimal. -/
def isDecimal (cs : List Char) : Bool :=
  let unsigned := dropSign cs
  let tail := unsigned.dropWhile isSpacedDigit
  if unsigned.head?.any Char.isDigit then
    match tail with
    | '.' :: rest => isExponent (rest.dropWhile isSpacedDigit)
    | ':' :: _ =>
      let places := tail.takeWhile fun c => c ≠ '.'
      match tail.dropWhile fun c => c ≠ '.' with
      | '.' :: rest => areSixtieths places && rest.all isSpacedDigit
      | _ => false
    | _ => false
  else
    match cs with
    | '.' :: c :: rest => c.isDigit && isExponent (rest.dropWhile isSpacedDigit)
    | _ => false

/-- Whether a text is a decimal or one of the words for numbers that have none. -/
def isFloat (cs : List Char) : Bool :=
  isDecimal cs || infinityWords.contains (String.ofList (dropSign cs)) ||
    nanWords.contains (String.ofList cs)

/-- A digit of a base, or an underscore. -/
def isDigitOf (base : Nat) (c : Char) : Bool := c = '_' || (Text.hexValue? c).any (· < base)

/-- Whether a text is an integer. -/
def isInteger (cs : List Char) : Bool :=
  match dropSign cs with
  | ['0'] => true
  | '0' :: 'b' :: rest => !rest.isEmpty && rest.all (isDigitOf 2)
  | '0' :: 'x' :: rest => !rest.isEmpty && rest.all (isDigitOf 16)
  | '0' :: rest => rest.all (isDigitOf 8)
  | c :: rest =>
    let places := rest.dropWhile isSpacedDigit
    c.isDigit && (places.isEmpty || areSixtieths places)
  | [] => false

/-- Whether a text is a timestamp; a day alone has two digits for month and day. -/
def isTimestamp (cs : List Char) : Bool :=
  (Timestamp.read? cs).any fun t => t.clock.isSome || t.isFull

/-! ### Types -/

/-- A text without one line end at its end, which patterns do not look at. -/
def dropFinalBreak (cs : List Char) : List Char :=
  if cs.getLast? = some '\n' then cs.dropLast else cs

/-- The type of a plain scalar. -/
def suggestedTag (s : String) : Tag :=
  let cs := dropFinalBreak s.toList
  let word := String.ofList cs
  if s = "" then .null
  else if truthWords.contains word then .bool
  else if isFloat cs then .float
  else if isInteger cs then .int
  else if word = "<<" then .merge
  else if nullWords.contains word then .null
  else if isTimestamp cs then .timestamp
  else if word = "=" then .value
  else if word = "!" ∨ word = "&" ∨ word = "*" then .unknown (standardUri ++ "yaml")
  else .text

end FormPublisher.Yaml
