import FormPublisher.Yaml.QuotedScalar

/-!
# Plain scalars

A scalar without quotation marks goes on until something ends it: a colon before a gap, a comment,
the indicators of flow collections inside one, a document mark, or a line that is indented too
little.  It may go over several lines, whose ends are folded like those of quoted scalars.  The gap
behind the last word does not belong to it, but is read with it, because only behind the gap shows
whether another word follows.
-/

namespace FormPublisher.Yaml

/-- The indicators of flow collections. -/
def isFlowIndicator (c : Char) : Bool := [',', '[', ']', '\x7b', '\x7d'].contains c

/-- Whether a colon with this behind it ends a plain scalar. -/
def endsKey (flow : Bool) (next : Option Char) : Bool :=
  isGap next || (flow && next.any isFlowIndicator)

/-- The characters of a plain scalar up to a gap or to what ends it, and what follows. -/
def plainRun (flow : Bool) : List Char → List Char × List Char
  | [] => ([], [])
  | c :: cs =>
    if isGap (some c) || (c = ':' && endsKey flow cs.head?) ||
        (flow && (c = '?' || isFlowIndicator c)) then ([], c :: cs)
    else ((c :: (plainRun flow cs).1), (plainRun flow cs).2)

/-- A gap behind a word: what it becomes in a scalar if another word follows, the column behind it
if it holds a line end, and what follows it.  There is no way on from a gap without spaces and line
ends or from one that stops at a document mark. -/
structure Gap where
  text : Option (List Char)
  column : Option Nat
  rest : List Char
  deriving DecidableEq, Repr, Inhabited

/-- The further line ends of a gap, or none when a document mark comes first, the column where they
stop, and what follows. -/
def moreLines (column : Nat) : List Char → Option (List Char) × Nat × List Char
  | [] => (some [], column, [])
  | c :: cs =>
    if c = ' ' then moreLines (column + 1) cs
    else if isBreak c then
      if isSeparator cs then (none, 0, cs)
      else
        let r := moreLines 0 cs
        (r.1.map (normalBreak c :: ·), r.2)
    else (some [], column, c :: cs)

/-- The gap at the start of a text. -/
def readGap (cs : List Char) : Gap :=
  let spaces := cs.takeWhile (· = ' ')
  let rest := cs.dropWhile (· = ' ')
  match rest with
  | c :: more =>
    if isBreak c then
      if isSeparator more then { text := none, column := some 0, rest := more }
      else
        let r := moreLines 0 more
        { text := r.1.map (foldLines (normalBreak c)), column := some r.2.1, rest := r.2.2 }
    else { text := if spaces.isEmpty then none else some spaces, column := none, rest }
  | [] => { text := none, column := none, rest }

/-- A plain scalar: its text, whether the gap behind its last word holds a line end, and what
follows the gap. -/
structure PlainReading where
  text : List Char
  endsLine : Bool
  rest : List Char
  deriving DecidableEq, Repr, Inhabited

/-- The words of a plain scalar, the first of them behind `before`.  A word on a later line must
stand at the least column `floor` or inside a flow collection. -/
def plainWords (flow : Bool) (floor : Nat) : Nat → List Char → List Char → PlainReading
  | 0, _, cs => { text := [], endsLine := false, rest := cs }
  | fuel + 1, before, cs =>
    let word := plainRun flow cs
    let gap := readGap word.2
    let last : PlainReading :=
      { text := before ++ word.1, endsLine := gap.column.isSome, rest := gap.rest }
    match gap.text with
    | none => last
    | some space =>
      if gap.rest.head? = some '#' ∨ (!flow ∧ gap.column.any (· < floor)) ∨
          (plainRun flow gap.rest).1.isEmpty then last
      else
        let more := plainWords flow floor fuel space gap.rest
        { more with text := before ++ word.1 ++ more.text }

/-- The plain scalar at the start of a text. -/
def readPlain (flow : Bool) (floor : Nat) (cs : List Char) : PlainReading :=
  plainWords flow floor (cs.length + 1) [] cs

end FormPublisher.Yaml
