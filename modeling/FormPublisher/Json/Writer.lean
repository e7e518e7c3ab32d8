import FormPublisher.Json.Token
import FormPublisher.Value.Display

/-!
# Writing JSON

`Json.tokens` gives the tokens of a value and `Json.write` spells them with the white space of a
layout between them.  The compact layout has one space after a comma and after a colon; the
indented one puts every item and member on a line of its own and leaves empty brackets together.

Days, times, bytes and sets have no JSON text, nor has a value that holds itself or an integer of
too many digits.  Keys that are no text are written as the text of their atom; keys that have none
are no keys of a JSON object either, and what is said about them hangs on the layout.
-/

namespace FormPublisher.Json

/-! ### Layout -/

/-- The white space between two tokens, given how many lists and objects are open there, and whether
the kind of a key that cannot be written is named in full. -/
structure Layout where
  gap : Nat → Token → Token → List Char
  namesInFull : Bool

/-- One space after a comma and after a colon. -/
def Layout.compact : Layout where
  gap _ t _ :=
    match t with
    | .comma | .colon => [' ']
    | _ => []
  namesInFull := true

/-- A token that opens a list or an object. -/
def Token.opens : Token → Bool
  | openList | openObject => true
  | _ => false

/-- A token that closes a list or an object. -/
def Token.closes : Token → Bool
  | closeList | closeObject => true
  | _ => false

/-- A new line that is indented so many steps. -/
def newLine (width depth : Nat) : List Char := '\n' :: List.replicate (width * depth) ' '

/-- A line for every item and member. -/
def Layout.indented (width : Nat) : Layout where
  gap depth t next :=
    if t = .colon then [' ']
    else if t = .comma then newLine width depth
    else if t.opens then if next.closes then [] else newLine width depth
    else if next.closes then newLine width (depth - 1)
    else []
  namesInFull := false

/-! ### Tokens of a value -/

/-- The token of a scalar. -/
def scalarToken (s : Scalar) : Except Misuse Token :=
  match s with
  | .bytes _ | .date _ | .time _ => .error (.unwritable s.kind)
  | _ => if s.isWritable then .ok (.atom s) else .error .tooManyDigits

/-- The token of a key, which is a text. -/
def keyToken (inFull : Bool) (k : Scalar) : Except Misuse Token :=
  match k with
  | .text _ | .torn _ => .ok (.atom k)
  | .bytes _ | .date _ | .time _ => .error (.unwritableKey k.kind inFull)
  | _ =>
    if k.isWritable then .ok (.atom (.text (String.ofList (spellScalar k))))
    else .error .tooManyDigits

mutual

/-- The tokens of a value. -/
def tokens (inFull : Bool) : Value → Except Misuse (List Token)
  | .scalar s => do return [← scalarToken s]
  | .list [] => .ok [.openList, .closeList]
  | .list (v :: vs) => do
    let first ← tokens inFull v
    let rest ← itemTokens inFull vs
    return .openList :: first ++ rest
  | .pair a b => do
    let first ← tokens inFull a
    let second ← tokens inFull b
    return .openList :: first ++ .comma :: second ++ [.closeList]
  | .map [] => .ok [.openObject, .closeObject]
  | .map ((k, v) :: es) => do
    let key ← keyToken inFull k
    let first ← tokens inFull v
    let rest ← memberTokens inFull es
    return .openObject :: key :: .colon :: first ++ rest
  | .set _ => .error (.unwritable .set)
  | .knot _ v => tokens inFull v
  | .back _ _ => .error .circular

/-- The tokens of the items after the first and of the end of a list. -/
def itemTokens (inFull : Bool) : List Value → Except Misuse (List Token)
  | [] => .ok [.closeList]
  | v :: vs => do
    let first ← tokens inFull v
    let rest ← itemTokens inFull vs
    return .comma :: first ++ rest

/-- The tokens of the members after the first and of the end of an object. -/
def memberTokens (inFull : Bool) : List (Scalar × Value) → Except Misuse (List Token)
  | [] => .ok [.closeObject]
  | (k, v) :: es => do
    let key ← keyToken inFull k
    let first ← tokens inFull v
    let rest ← memberTokens inFull es
    return .comma :: key :: .colon :: first ++ rest

end

/-! ### Writing -/

/-- The number of open lists and objects after a token. -/
def depthAfter (depth : Nat) (t : Token) : Nat :=
  if t.opens then depth + 1 else if t.closes then depth - 1 else depth

/-- The characters of tokens with the white space of a layout between them. -/
def spellAll (layout : Layout) (depth : Nat) : List Token → List Char
  | [] => []
  | [t] => t.spell
  | t :: next :: ts =>
    t.spell ++ layout.gap (depthAfter depth t) t next ++
      spellAll layout (depthAfter depth t) (next :: ts)

/-- The text of a value. -/
def write (layout : Layout) (v : Value) : Except Misuse String := do
  return String.ofList (spellAll layout 0 (← tokens layout.namesInFull v))

end FormPublisher.Json
