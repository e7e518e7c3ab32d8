import FormPublisher.Fault
import FormPublisher.Yaml.Character

/-!
# Block scalars

A scalar behind `|` or `>` takes up the lines that are indented below it.  Its header may give the
width of the indentation and say what becomes of the line ends at its end: one is kept, or none, or
all.  Without a width the first line that is not blank sets the indentation.  Behind `>` the end of
a line is folded into a space, unless one of the two lines begins with a blank.
-/

namespace FormPublisher.Yaml

/-- What becomes of the line ends at the end of a scalar. -/
inductive Chomping where
  | clip
  | strip
  | keep
  deriving DecidableEq, Repr, Inhabited

/-! ### Header -/

/-- The chomping that a sign asks for. -/
def Chomping.ofSign? (c : Char) : Option Chomping :=
  if c = '+' then some keep else if c = '-' then some strip else none

/-- The header of a block scalar; a width of zero stands for none. -/
structure BlockHeader where
  chomping : Chomping := .clip
  width : Nat := 0
  deriving DecidableEq, Repr, Inhabited

/-- A width, which is one digit other than zero, in front of the rest of a header. -/
def readWidth? : List Char → Option (Nat × List Char)
  | c :: cs =>
    if c = '0' then none
    else if c.isDigit then some (c.toNat - 48, cs)
    else some (0, c :: cs)
  | [] => some (0, [])

/-- A sign in front of the rest of a header. -/
def readChomping : List Char → Chomping × List Char
  | c :: cs =>
    match Chomping.ofSign? c with
    | some chomping => (chomping, cs)
    | none => (.clip, c :: cs)
  | [] => (.clip, [])

/-- The sign and the width of a header, in either order. -/
def readIndicators? (cs : List Char) : Option (BlockHeader × List Char) :=
  if (cs.head?.bind Chomping.ofSign?).isSome then
    let sign := readChomping cs
    (readWidth? sign.2).map fun width => (⟨sign.1, width.1⟩, width.2)
  else
    (readWidth? cs).map fun width =>
      if width.1 = 0 then (⟨.clip, 0⟩, width.2)
      else
        let sign := readChomping width.2
        (⟨sign.1, width.1⟩, sign.2)

/-- What follows on the line after spaces and a comment. -/
def dropComment (cs : List Char) : List Char :=
  let rest := cs.dropWhile (· = ' ')
  if rest.head? = some '#' then rest.dropWhile fun c => !isBreak c else rest

/-- The header of a block scalar and the lines after it. -/
def readHeader? (cs : List Char) : Option (BlockHeader × List Char) :=
  (readIndicators? cs).bind fun h =>
    let rest := dropComment h.2
    if isSpaceOrEnd h.2.head? && isLineEnd rest.head? then some (h.1, rest.tail) else none

/-! ### Lines -/

/-- The line ends of blank lines, the column at which they stop, and what follows; no more than
`limit` spaces of a line count as indentation. -/
def blankLines (limit : Nat) (column : Nat) : List Char → List Char × Nat × List Char
  | [] => ([], column, [])
  | c :: cs =>
    if c = ' ' ∧ column < limit then blankLines limit (column + 1) cs
    else if isBreak c then
      let r := blankLines limit 0 cs
      (normalBreak c :: r.1, r.2)
    else ([], column, c :: cs)

/-- The greatest number of spaces at the start of one of the blank lines or of the line after
them. -/
def widestIndent (column widest : Nat) : List Char → Nat
  | [] => widest
  | c :: cs =>
    if c = ' ' then widestIndent (column + 1) (max widest (column + 1)) cs
    else if isBreak c then widestIndent 0 widest cs
    else widest

/-- What the end of a line becomes, given the line ends of the blank lines after it and whether
both lines around them begin with something other than a blank. -/
def joinLines (folded solid : Bool) (lineEnd : Char) (blank : List Char) : List Char :=
  if folded && solid && lineEnd = '\n' then if blank.isEmpty then [' '] else []
  else [lineEnd]

/-- Whether a line begins with something other than a blank. -/
def isSolid (cs : List Char) : Bool := !(cs.head?.any isBlank)

/-- The lines of a scalar from one at the right column on: their text, the end of the last line and
of the blank lines after it, and what follows. -/
def blockLines (folded : Bool) (indent : Nat) :
    Nat → List Char → List Char × List Char × List Char × List Char
  | 0, cs => ([], [], [], cs)
  | fuel + 1, cs =>
    let line := cs.takeWhile fun c => !isBreak c
    match cs.dropWhile fun c => !isBreak c with
    | [] => (line, [], [], [])
    | c :: rest =>
      let blank := blankLines indent 0 rest
      if blank.2.1 = indent ∧ blank.2.2 ≠ [] then
        let more := blockLines folded indent fuel blank.2.2
        (line ++ joinLines folded (isSolid cs && isSolid blank.2.2) (normalBreak c) blank.1 ++
          blank.1 ++ more.1, more.2)
      else (line, [normalBreak c], blank.1, blank.2.2)

/-- The line ends that are left at the end of a scalar. -/
def Chomping.apply (chomping : Chomping) (lineEnd blank : List Char) : List Char :=
  match chomping with
  | clip => lineEnd
  | strip => []
  | keep => lineEnd ++ blank

/-- The text of a block scalar behind its indicator, and what follows it.  Its lines stand at the
column `floor` at least, and never at the start of a line. -/
def readBlock (folded : Bool) (floor : Nat) (cs : List Char) : Except Flaw (String × List Char) :=
  match readHeader? cs with
  | none => .error .malformed
  | some (header, lines) =>
    let least := max floor 1
    let indent :=
      if header.width = 0 then max least (widestIndent 0 0 lines) else least + header.width - 1
    let limit := if header.width = 0 then lines.length else indent
    let blank := blankLines limit 0 lines
    if blank.2.1 = indent ∧ blank.2.2 ≠ [] then
      let read := blockLines folded indent cs.length blank.2.2
      .ok (String.ofList (blank.1 ++ read.1 ++ header.chomping.apply read.2.1 read.2.2.1),
        read.2.2.2)
    else
      .ok (String.ofList (header.chomping.apply [] blank.1), blank.2.2)

end FormPublisher.Yaml
