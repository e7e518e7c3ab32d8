import FormPublisher.Fault
import FormPublisher.Text.Hex
import FormPublisher.Yaml.Character

/-!
# Quoted scalars

A scalar between quotation marks is first cut into `Piece`s, by `readSingle` or `readDouble`, and
then folded: blanks around a line end are dropped, a single line end becomes a space, and of several
in a row the first is dropped.  Between double quotation marks there are escapes; a backslash at the
end of a line drops the line end and the blanks after it.  An escape may denote a surrogate, so a
scalar is given by its code points; two surrogates in a row are not put together.

No line inside a scalar may begin with the mark that starts or ends a document.
-/

namespace FormPublisher.Yaml

/-- A part of a quoted scalar; a `joint` is a line end that a backslash takes away. -/
inductive Piece where
  | unit (n : Nat)
  | blank (c : Char)
  | lineEnd (c : Char)
  | joint
  deriving DecidableEq, Repr, Inhabited

/-! ### Cutting -/

/-- What is read of a scalar, and what follows it. -/
abbrev PieceReading := Except Flaw (List Piece × List Char)

/-- A reading with one more piece in front. -/
def PieceReading.cons (p : Piece) (r : PieceReading) : PieceReading :=
  r.map fun read => (p :: read.1, read.2)

/-- The piece that a character is by itself. -/
def Piece.ofChar (c : Char) : Piece :=
  if isBreak c then .lineEnd (normalBreak c) else if isBlank c then .blank c else .unit c.toNat

/-- Whether a document mark follows a line end. -/
def breaksOff (c : Char) (rest : List Char) : Bool := isBreak c && isSeparator rest

/-- The pieces up to a single quotation mark; two of them in a row stand for one. -/
def readSingle : List Char → PieceReading
  | [] => .error .malformed
  | '\'' :: '\'' :: cs => (readSingle cs).cons (.unit 39)
  | '\'' :: cs => .ok ([], cs)
  | c :: cs =>
    if breaksOff c cs then .error .malformed else (readSingle cs).cons (.ofChar c)

/-- The character that a letter after a backslash stands for. -/
def escape? (c : Char) : Option Nat :=
  match c with
  | '0' => some 0
  | 'a' => some 7
  | 'b' => some 8
  | 't' | '\t' => some 9
  | 'n' => some 10
  | 'v' => some 11
  | 'f' => some 12
  | 'r' => some 13
  | 'e' => some 27
  | ' ' | '"' | '\\' | '/' => some c.toNat
  | 'N' => some 0x85
  | '_' => some 0xA0
  | 'L' => some 0x2028
  | 'P' => some 0x2029
  | _ => none

/-- A reading behind the character that hexadecimal digits denote; there is none for a number beyond
the code points, and one of more than thirty-one bits is not even compared with them. -/
def coded (digits : List Char) (r : PieceReading) : PieceReading :=
  match Text.readHex? digits with
  | none => .error .malformed
  | some n =>
    if 0x80000000 ≤ n then .error (.literal .codeOverflow)
    else if 0x110000 ≤ n then .error (.literal .codePoint)
    else r.cons (.unit n)

/-- The pieces up to a double quotation mark. -/
def readDouble : List Char → PieceReading
  | [] => .error .malformed
  | '"' :: cs => .ok ([], cs)
  | '\\' :: 'x' :: a :: b :: cs => coded [a, b] (readDouble cs)
  | '\\' :: 'u' :: a :: b :: c :: d :: cs => coded [a, b, c, d] (readDouble cs)
  | '\\' :: 'U' :: a :: b :: c :: d :: e :: f :: g :: h :: cs =>
    coded [a, b, c, d, e, f, g, h] (readDouble cs)
  | '\\' :: c :: cs =>
    if isBreak c then
      if isSeparator cs then .error .malformed else (readDouble cs).cons .joint
    else
      match escape? c with
      | some n => (readDouble cs).cons (.unit n)
      | none => .error .malformed
  | c :: cs =>
    if c = '\\' ∨ breaksOff c cs then .error .malformed else (readDouble cs).cons (.ofChar c)

/-! ### Folding -/

/-- What lies before the next character of a scalar: nothing, blanks on the same line, or line ends,
of which the first is set apart; there is no first one after a joint. -/
inductive Space where
  | none
  | blanks (cs : List Char)
  | lines (first : Option Char) (more : List Char)
  deriving DecidableEq, Repr, Inhabited

/-- What a line end followed by others becomes. -/
def foldLines (first : Char) (more : List Char) : List Char :=
  if first ≠ '\n' then first :: more
  else if more.isEmpty then [' ']
  else more

/-- What a space becomes. -/
def Space.fold : Space → List Char
  | none => []
  | blanks cs => cs
  | lines (some first) more => foldLines first more
  | lines Option.none more => more

/-- A space with one more piece, which is no character. -/
def Space.add : Space → Piece → Space
  | none, .blank c => blanks [c]
  | blanks cs, .blank c => blanks (cs ++ [c])
  | lines first more, .lineEnd c => lines first (more ++ [c])
  | _, .lineEnd c => lines (some c) []
  | s, _ => s

/-- The code points of pieces behind a space. -/
def foldPieces (s : Space) : List Piece → List Nat
  | [] => s.fold.map Char.toNat
  | .unit n :: ps => s.fold.map Char.toNat ++ n :: foldPieces .none ps
  | .joint :: ps => s.fold.map Char.toNat ++ foldPieces (.lines none []) ps
  | p :: ps => foldPieces (s.add p) ps

/-- The code points of a quoted scalar behind its opening quotation mark, and what follows it. -/
def readQuoted (double : Bool) (cs : List Char) : Except Flaw (List Nat × List Char) :=
  (if double then readDouble cs else readSingle cs).map fun read =>
    (foldPieces .none read.1, read.2)

end FormPublisher.Yaml
