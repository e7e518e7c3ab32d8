import FormPublisher.Fault
import FormPublisher.Number.Shortest
import FormPublisher.Text.Hex
import FormPublisher.Text.Surrogate

/-!
# Tokens of JSON

A JSON text is a list of tokens with white space between them.  `Token.spell` writes a token and
`lex` cuts a text into tokens.  Texts are written in ASCII: every other character is a code escape,
above U+FFFF a pair of them.  Beside the numbers of the standard there are the words `NaN`,
`Infinity` and `-Infinity`.

The lexer goes through the text once, one character at a time, in one of five modes.  A word, that
is a number or a name, ends at white space, punctuation or a quotation mark; only then it is looked
up, and a word that is neither makes the text no JSON text.  What is wrong with a text counts only
once the tokens before it have been taken, so the lexer gives them together with the flaw behind
them.
-/

namespace FormPublisher.Json

/-- A token; an atom is a text, a number, a truth value or nothing. -/
inductive Token where
  | openList
  | closeList
  | openObject
  | closeObject
  | comma
  | colon
  | atom (s : Scalar)
  deriving DecidableEq, Repr, Inhabited

/-! ### Spelling -/

/-- The layout of numbers. -/
def numberLayout : FloatLayout := { nan := "NaN", infinity := "Infinity" }

/-- The letter after a backslash for a character that has one. -/
def shortEscape? (c : Char) : Option Char :=
  if c = '"' then some '"'
  else if c = '\\' then some '\\'
  else if c = '\n' then some 'n'
  else if c = '\r' then some 'r'
  else if c = '\t' then some 't'
  else if c.toNat = 8 then some 'b'
  else if c.toNat = 12 then some 'f'
  else none

/-- A character as it stands in a text. -/
def spellChar (c : Char) : List Char :=
  match shortEscape? c with
  | some e => ['\\', e]
  | none =>
    if 32 ≤ c.toNat ∧ c.toNat < 127 then [c]
    else (Text.units c).flatMap fun u => '\\' :: 'u' :: Text.hexDigits 4 u

/-- A text between quotation marks. -/
def spellText (s : String) : List Char := '"' :: (s.toList.flatMap spellChar ++ ['"'])

/-- A code point as it stands in a text. -/
def spellPoint (u : Nat) : List Char :=
  if Text.isSurrogate u then '\\' :: 'u' :: Text.hexDigits 4 u else spellChar (Text.ofPoint u)

/-- A text that is given by its code points between quotation marks. -/
def spellPoints (points : List Nat) : List Char := '"' :: (points.flatMap spellPoint ++ ['"'])

/-- The characters of an atom; days, times and bytes have none. -/
def spellScalar : Scalar → List Char
  | .null => "null".toList
  | .bool b => (if b then "true" else "false").toList
  | .int n => (toString n).toList
  | .float x => (x.write numberLayout).toList
  | .text s => spellText s
  | .torn points => spellPoints points
  | .bytes _ | .date _ | .time _ => []

/-- The characters of a token. -/
def Token.spell : Token → List Char
  | openList => ['[']
  | closeList => [']']
  | openObject => ['\x7b']
  | closeObject => ['\x7d']
  | comma => [',']
  | colon => [':']
  | atom s => spellScalar s

/-! ### Words -/

/-- An unsigned number of the standard: no leading zero, and digits on both sides of a point. -/
def readNumber? (negative : Bool) (cs : List Char) : Option Scalar :=
  let whole := cs.takeWhile Char.isDigit
  let rest := cs.dropWhile Char.isDigit
  if whole.isEmpty || (whole.head? == some '0' && whole.length ≠ 1) then none
  else
    match rest with
    | [] =>
      let n := Numeral.ofDigits whole
      some (.int (if negative then -(n : Int) else n))
    | '.' :: more =>
      let fraction := more.takeWhile Char.isDigit
      if fraction.isEmpty then none
      else (Numeral.readExponent? (more.dropWhile Char.isDigit)).map fun e =>
        .float (Numeral.floatOf negative whole fraction e)
    | _ => (Numeral.readExponent? rest).map fun e => .float (Numeral.floatOf negative whole [] e)

/-- Whether what follows the digits of a number makes it a decimal, at least where it starts. -/
def startsDecimal : List Char → Bool
  | '.' :: c :: _ => c.isDigit
  | c :: cs => c.toLower = 'e' && (Numeral.splitSign cs).2.head?.any Char.isDigit
  | [] => false

/-- The number of digits of the integer that an unsigned word begins with, if there are too many:
then it does not matter what follows them. -/
def excessDigits? (cs : List Char) : Option Nat :=
  let count := (cs.takeWhile Char.isDigit).length
  if Numeral.digitLimit < count && cs.head? != some '0' &&
      !startsDecimal (cs.dropWhile Char.isDigit) then some count
  else none

/-- The atom that an unsigned number denotes. -/
def readNumber (negative : Bool) (cs : List Char) : Except Flaw Scalar :=
  match excessDigits? cs with
  | some count => .error (.literal (.digits count))
  | none =>
    match readNumber? negative cs with
    | some s => .ok s
    | none => .error .malformed

/-- The atom that a word denotes. -/
def readWord (cs : List Char) : Except Flaw Scalar :=
  if cs = "null".toList then .ok .null
  else if cs = "true".toList then .ok (.bool true)
  else if cs = "false".toList then .ok (.bool false)
  else if cs = "NaN".toList then .ok (.float .nan)
  else if cs = "Infinity".toList then .ok (.float (.infinite false))
  else if cs = "-Infinity".toList then .ok (.float (.infinite true))
  else
    match cs with
    | '-' :: rest => readNumber true rest
    | _ => readNumber false cs

/-! ### Lexing -/

/-- White space between tokens. -/
def isSpace (c : Char) : Bool := c = ' ' || c = '\n' || c = '\r' || c = '\t'

/-- The token of a punctuation character. -/
def punctuation? (c : Char) : Option Token :=
  if c = '[' then some .openList
  else if c = ']' then some .closeList
  else if c = '\x7b' then some .openObject
  else if c = '\x7d' then some .closeObject
  else if c = ',' then some .comma
  else if c = ':' then some .colon
  else none

/-- The character that a letter after a backslash stands for. -/
def unescape? (c : Char) : Option Nat :=
  if c = '"' ∨ c = '\\' ∨ c = '/' then some c.toNat
  else if c = 'n' then some 10
  else if c = 'r' then some 13
  else if c = 't' then some 9
  else if c = 'b' then some 8
  else if c = 'f' then some 12
  else none

/-- What the lexer is inside of; what it has read there stands in reverse.  In a code escape `left`
digits are missing to `code`. -/
inductive Mode where
  | between
  | word (read : List Char)
  | text (read : List Nat)
  | escape (read : List Nat)
  | code (read : List Nat) (left code : Nat)
  deriving DecidableEq, Repr, Inhabited

/-- The mode after a character outside words and texts, and the token that it makes. -/
def start (c : Char) : Mode × List Token :=
  if isSpace c then (.between, [])
  else if c = '"' then (.text [], [])
  else
    match punctuation? c with
    | some t => (.between, [t])
    | none => (.word [c], [])

/-- Whether a character ends a word. -/
def endsWord (c : Char) : Bool := isSpace c || c = '"' || (punctuation? c).isSome

/-- The token of a word read in reverse. -/
def wordToken (read : List Char) : Except Flaw Token := (readWord read.reverse).map .atom

/-- The mode after a character, and the tokens that it completes. -/
def advance : Mode → Char → Except Flaw (Mode × List Token)
  | .between, c => .ok (start c)
  | .word read, c =>
    if endsWord c then (wordToken read).map fun t => ((start c).1, t :: (start c).2)
    else .ok (.word (c :: read), [])
  | .text read, c =>
    if c = '"' then
      .ok (.between, [.atom (.ofPoints (Text.joinPairs read.reverse))])
    else if c = '\\' then .ok (.escape read, [])
    else if c.toNat < 32 then .error .malformed
    else .ok (.text (c.toNat :: read), [])
  | .escape read, c =>
    if c = 'u' then .ok (.code read 4 0, [])
    else
      match unescape? c with
      | some n => .ok (.text (n :: read), [])
      | none => .error .malformed
  | .code read left code, c =>
    match Text.hexValue? c with
    | some d =>
      if left ≤ 1 then .ok (.text ((16 * code + d) :: read), [])
      else .ok (.code read (left - 1) (16 * code + d), [])
    | none => .error .malformed

/-- What a text is cut into: tokens, and what is wrong with what follows them. -/
structure Lexed where
  tokens : List Token
  flaw : Option Flaw := none
  deriving DecidableEq, Repr, Inhabited

/-- A text with more tokens in front. -/
def Lexed.after (ts : List Token) (l : Lexed) : Lexed := { l with tokens := ts ++ l.tokens }

/-- The tokens of what follows in a mode. -/
def lexFrom : Mode → List Char → Lexed
  | .between, [] => { tokens := [] }
  | .word read, [] =>
    match wordToken read with
    | .ok t => { tokens := [t] }
    | .error flaw => { tokens := [], flaw }
  | _, [] => { tokens := [], flaw := some .malformed }
  | mode, c :: cs =>
    match advance mode c with
    | .ok (next, ts) => (lexFrom next cs).after ts
    | .error flaw => { tokens := [], flaw }

/-- The tokens of a text. -/
def lex (cs : List Char) : Lexed := lexFrom .between cs

end FormPublisher.Json
