import FormPublisher.Yaml.Cursor
import FormPublisher.Yaml.Directive
import FormPublisher.Yaml.PlainScalar

/-!
# Tokens of YAML

`lex` cuts a text into tokens.  Block collections have no brackets in the text; the lexer keeps the
columns of those that are open and puts tokens where one starts and ends.

A key without an indicator shows only by the colon behind it.  So the lexer notes where such a key
may have begun, one place for every depth of flow collections, and puts the token for the key, and
the one for a block mapping that starts with it, there when the colon comes.  A key must lie on one
line and within 1024 characters; a place where the indentation asks for a key must become one.

A text that cannot be cut further leaves the flaw there behind the tokens before it.  Of these only
those count that can be told apart without the rest of the text: what may still become a key waits
for the colon, and so does everything behind it (`Lexer.settled`).
-/

namespace FormPublisher.Yaml

/-- A token; a scalar is given by its code points. -/
inductive Token where
  | directive (d : Directive)
  | documentStart
  | documentEnd
  | blockSequence
  | blockMapping
  | blockEnd
  | flowSequence
  | flowSequenceEnd
  | flowMapping
  | flowMappingEnd
  | blockEntry
  | flowEntry
  | key
  | value
  | alias (name : String)
  | anchor (name : String)
  | tag (t : TagSpelling)
  | scalar (plain : Bool) (points : List Nat)
  deriving DecidableEq, Repr, Inhabited

/-- A place where a key may have begun: the depth of flow collections and the number of tokens
there, and whether it must become a key. -/
structure KeyPlace where
  depth : Nat
  position : Nat
  required : Bool
  index : Nat
  line : Nat
  column : Nat
  deriving DecidableEq, Repr, Inhabited

/-- A lexer on its way through a text.  `depth` counts the open flow collections, `blocks` holds the
columns of the open block collections from the innermost on, and the tokens stand in reverse. -/
structure Lexer where
  place : Cursor
  depth : Nat := 0
  blocks : List Nat := []
  keyAllowed : Bool := true
  keys : List KeyPlace := []
  read : List Token := []
  deriving Repr, Inhabited

namespace Lexer

/-! ### Gaps -/

/-- What follows spaces, comments and line ends, and whether a line ended. -/
def dropGap (comment ended : Bool) : List Char → List Char × Bool
  | [] => ([], ended)
  | c :: cs =>
    if isBreak c then dropGap false true cs
    else if comment then dropGap true ended cs
    else if c = ' ' then dropGap false ended cs
    else if c = '#' then dropGap true ended cs
    else (c :: cs, ended)

/-- The lexer at its next token; a key may begin on a new line outside flow collections. -/
def skipGap (s : Lexer) : Lexer :=
  let start :=
    if s.place.index = 0 ∧ s.place.rest.head? = some byteOrderMark then s.place.next else s.place
  let gap := dropGap false false start.rest
  { s with
    place := start.skipTo gap.1
    keyAllowed := s.keyAllowed || (gap.2 && s.depth == 0) }

/-! ### Keys -/

/-- Whether a place can no longer become a key. -/
def isStale (s : Lexer) (k : KeyPlace) : Bool :=
  k.line ≠ s.place.line || 1024 < s.place.index - k.index

/-- The lexer without the places of a class, none of which must become a key. -/
def dropKeys (p : KeyPlace → Bool) (s : Lexer) : Except Flaw Lexer :=
  if s.keys.any fun k => p k && k.required then .error .malformed
  else .ok { s with keys := s.keys.filter fun k => !p k }

/-- The lexer without a place at this depth. -/
def forgetKey (s : Lexer) : Except Flaw Lexer := s.dropKeys fun k => k.depth == s.depth

/-- The lexer with the place that it is at, if a key may begin there. -/
def noteKey (s : Lexer) : Except Flaw Lexer :=
  if s.keyAllowed then do
    let s ← s.forgetKey
    let place : KeyPlace :=
      { depth := s.depth
        position := s.read.length
        required := s.depth == 0 && s.blocks.head? == some s.place.column
        index := s.place.index
        line := s.place.line
        column := s.place.column }
    return { s with keys := place :: s.keys }
  else .ok s

/-! ### Blocks -/

/-- The lexer with one more token. -/
def emit (s : Lexer) (t : Token) : Lexer := { s with read := t :: s.read }

/-- The lexer after the end of the blocks that are indented more than a column, or of all blocks. -/
def closeBlocks (column : Option Nat) (s : Lexer) : Lexer :=
  if s.depth ≠ 0 then s
  else
    let deeper (b : Nat) : Bool := column.all fun c => c < b
    { s with
      blocks := s.blocks.dropWhile deeper
      read := (s.blocks.takeWhile deeper).map (fun _ => Token.blockEnd) ++ s.read }

/-- Whether a block at a column would lie deeper than the open ones. -/
def isDeeper (s : Lexer) (column : Nat) : Bool := s.blocks.head?.all fun b => b < column

/-- The lexer in a block at its column, with the token for its start if there was none. -/
def openBlock (s : Lexer) (t : Token) : Lexer :=
  if s.depth = 0 ∧ s.isDeeper s.place.column then
    { s with blocks := s.place.column :: s.blocks, read := t :: s.read }
  else s

/-- The least column of a line that goes on with a scalar. -/
def floor (s : Lexer) : Nat := (s.blocks.head?.map (· + 1)).getD 0

/-! ### Tokens of one kind -/

/-- The lexer behind an indicator of so many characters. -/
def indicator (size : Nat) (t : Token) (s : Lexer) : Lexer :=
  { s.emit t with place := s.place.skip size }

/-- The lexer behind a token that goes up to `rest`. -/
def upTo (rest : List Char) (t : Token) (s : Lexer) : Lexer :=
  { s.emit t with place := s.place.skipTo rest }

/-- A token outside every block, behind which no key may begin. -/
def outside (s : Lexer) : Except Flaw Lexer := do
  let s ← (s.closeBlocks none).forgetKey
  return { s with keyAllowed := false }

/-- The start of a flow collection, which may itself begin a key. -/
def openFlow (t : Token) (s : Lexer) : Except Flaw Lexer := do
  let s ← s.noteKey
  return { s.indicator 1 t with depth := s.depth + 1, keyAllowed := true }

/-- The end of a flow collection. -/
def closeFlow (t : Token) (s : Lexer) : Except Flaw Lexer := do
  if s.depth = 0 then throw .malformed
  let s ← s.forgetKey
  return { s.indicator 1 t with depth := s.depth - 1, keyAllowed := false }

/-- A comma in a flow collection. -/
def nextFlow (s : Lexer) : Except Flaw Lexer := do
  let s ← s.forgetKey
  return { s.indicator 1 .flowEntry with keyAllowed := true }

/-- The indicator of an item of a block sequence. -/
def blockEntry (s : Lexer) : Except Flaw Lexer := do
  if s.depth = 0 ∧ !s.keyAllowed then throw .malformed
  let s ← (s.openBlock .blockSequence).forgetKey
  return { s.indicator 1 .blockEntry with keyAllowed := true }

/-- The indicator of a key. -/
def explicitKey (s : Lexer) : Except Flaw Lexer := do
  if s.depth = 0 ∧ !s.keyAllowed then throw .malformed
  let s ← (s.openBlock .blockMapping).forgetKey
  return { s.indicator 1 .key with keyAllowed := s.depth == 0 }

/-- The tokens with others put behind the first `n`; both stand in reverse. -/
def insertAfter (n : Nat) (ts read : List Token) : List Token :=
  let later := read.length - n
  read.take later ++ ts ++ read.drop later

/-- The lexer with a key where it began, in a block mapping of its own if it is indented more than
the open blocks. -/
def placeKey (s : Lexer) (k : KeyPlace) : Lexer :=
  let others := s.keys.filter fun other => other.depth != k.depth
  if s.depth = 0 ∧ s.isDeeper k.column then
    { s with
      keys := others
      blocks := k.column :: s.blocks
      read := insertAfter k.position [.key, .blockMapping] s.read }
  else { s with keys := others, read := insertAfter k.position [.key] s.read }

/-- The colon between a key and its value. -/
def value (s : Lexer) : Except Flaw Lexer :=
  match s.keys.find? fun k => k.depth == s.depth with
  | some k => .ok { (s.placeKey k).indicator 1 .value with keyAllowed := false }
  | none => do
    if s.depth = 0 ∧ !s.keyAllowed then throw .malformed
    let s ← (s.openBlock .blockMapping).forgetKey
    return { s.indicator 1 .value with keyAllowed := s.depth == 0 }

/-- A token that may begin a key and behind which none may begin. -/
def word (read : Except Flaw (Token × List Char)) (s : Lexer) : Except Flaw Lexer := do
  let s ← s.noteKey
  let r ← read
  return { s.upTo r.2 r.1 with keyAllowed := false }

/-- A plain scalar with the gap behind it; a key may begin behind a line end. -/
def plainScalar (cs : List Char) (s : Lexer) : Except Flaw Lexer := do
  let s ← s.noteKey
  let r := readPlain (s.depth ≠ 0) s.floor cs
  return { s.upTo r.rest (.scalar true (r.text.map Char.toNat)) with keyAllowed := r.endsLine }

/-- A block scalar, behind which a key may begin. -/
def blockScalar (folded : Bool) (cs : List Char) (s : Lexer) : Except Flaw Lexer := do
  let s ← s.forgetKey
  let r ← readBlock folded s.floor cs
  return { s.upTo r.2 (.scalar false (Text.points r.1)) with keyAllowed := true }

/-! ### All tokens -/

/-- Whether a character that is no gap can begin a plain scalar. -/
def startsPlain (flow : Bool) (c : Char) (next : Option Char) : Bool :=
  let indicators := ['-', '?', ':', ',', '[', ']', '\x7b', '\x7d', '#', '&', '*', '!', '|', '>',
    '\'', '"', '%', '@', Char.ofNat 96]
  !(isGap (some c) || indicators.contains c) ||
    (!isGap next && (c = '-' || (!flow && (c = '?' || c = ':'))))

/-- The lexer behind its next token, which begins with the character `c`. -/
def token (s : Lexer) (c : Char) (cs : List Char) : Except Flaw Lexer :=
  let next := cs.head?
  let flow := s.depth ≠ 0
  let lineStart := s.place.column = 0
  if c = '%' ∧ lineStart then do
    let s ← s.outside
    let r ← readDirective cs
    return s.upTo r.2 (.directive r.1)
  else if lineStart ∧ startsWithMark '-' (c :: cs) then
    s.outside.map (indicator 3 .documentStart)
  else if lineStart ∧ startsWithMark '.' (c :: cs) then s.outside.map (indicator 3 .documentEnd)
  else if c = '[' then s.openFlow .flowSequence
  else if c = '\x7b' then s.openFlow .flowMapping
  else if c = ']' then s.closeFlow .flowSequenceEnd
  else if c = '\x7d' then s.closeFlow .flowMappingEnd
  else if c = ',' then s.nextFlow
  else if c = '-' ∧ isGap next then s.blockEntry
  else if c = '?' ∧ (flow ∨ isGap next) then s.explicitKey
  else if c = ':' ∧ (flow ∨ isGap next) then s.value
  else if c = '*' then s.word ((readAnchor cs).map fun r => (.alias r.1, r.2))
  else if c = '&' then s.word ((readAnchor cs).map fun r => (.anchor r.1, r.2))
  else if c = '!' then s.word ((readTag cs).map fun r => (.tag r.1, r.2))
  else if c = '|' ∧ ¬flow then s.blockScalar false cs
  else if c = '>' ∧ ¬flow then s.blockScalar true cs
  else if c = '\'' then s.word ((readQuoted false cs).map fun r => (.scalar false r.1, r.2))
  else if c = '"' then s.word ((readQuoted true cs).map fun r => (.scalar false r.1, r.2))
  else if startsPlain flow c next then s.plainScalar (c :: cs)
  else .error .malformed

/-- The lexer behind its next token, or none at the end of the text.  Keys that came to nothing and
blocks that ended before the token are settled first. -/
def step? (s : Lexer) : Except Flaw (Lexer × Bool) := do
  let s ← s.dropKeys s.isStale
  let s := s.closeBlocks (some s.place.column)
  match s.place.rest with
  | [] => return (← s.outside, true)
  | c :: cs => return (← s.token c cs, false)

/-- The number of tokens that no key can be put in front of any more. -/
def settled (s : Lexer) : Nat := s.keys.foldl (fun n k => min n k.position) s.read.length

end Lexer

/-- What a text is cut into: tokens, and what is wrong with what follows them. -/
structure Lexed where
  tokens : List Token
  flaw : Option Flaw := none
  deriving DecidableEq, Repr, Inhabited

namespace Lexer

/-- What has been read when the next token cannot be; a place that must become a key and no longer
can is a flaw of its own. -/
def stopped (s : Lexer) (flaw : Flaw) : Lexed :=
  match s.dropKeys s.isStale with
  | .ok s => { tokens := s.read.reverse.take s.settled, flaw }
  | .error flaw => { tokens := [], flaw }

/-- The tokens from a place on, behind those read before. -/
def run : Nat → Lexer → Lexed
  | 0, s => s.stopped .malformed
  | fuel + 1, s =>
    match s.skipGap.step? with
    | .error flaw => s.stopped flaw
    | .ok (next, true) => { tokens := next.read.reverse }
    | .ok (next, false) => run fuel next

end Lexer

/-- The tokens of a text. -/
def lex (s : String) : Lexed :=
  let cs := s.toList
  if cs.all isReadable then Lexer.run (cs.length + 1) { place := { rest := cs } }
  else { tokens := [], flaw := some .malformed }

end FormPublisher.Yaml
