import FormPublisher.Yaml.Character

/-!
# Places in a text

A `Cursor` is a place in a text: what is still to be read, and how many characters, lines and
columns lie before it.  Indentation is told by columns, so a byte order mark, which cannot be seen,
does not count as one.
-/

namespace FormPublisher.Yaml

/-- A place in a text. -/
structure Cursor where
  rest : List Char
  index : Nat := 0
  line : Nat := 0
  column : Nat := 0
  deriving Repr, Inhabited

namespace Cursor

/-- The place after the next character. -/
def next (p : Cursor) : Cursor :=
  match p.rest with
  | [] => p
  | c :: rest =>
    if isBreak c then { rest, index := p.index + 1, line := p.line + 1, column := 0 }
    else
      { rest, index := p.index + 1, line := p.line,
        column := if c = byteOrderMark then p.column else p.column + 1 }

/-- The place after so many characters. -/
def skip : Nat → Cursor → Cursor
  | 0, p => p
  | n + 1, p => skip n p.next

/-- The place at which so much is still to be read. -/
def skipTo (p : Cursor) (rest : List Char) : Cursor := p.skip (p.rest.length - rest.length)

/-- Going to the next place reads one character. -/
theorem rest_next (p : Cursor) : p.next.rest = p.rest.tail := by
  unfold next
  split
  · simp [*]
  · split <;> simp [*]

/-- Going on reads that many characters. -/
theorem rest_skip (n : Nat) (p : Cursor) : (p.skip n).rest = p.rest.drop n := by
  induction n generalizing p with
  | zero => rfl
  | succ n ih => rw [skip, ih, rest_next, List.drop_tail]

end Cursor

end FormPublisher.Yaml
