/-!
# Characters of YAML

The classes of characters that the syntax of YAML 1.1 rests on.  A line ends with a line feed, a
next-line character or a line or paragraph separator; a carriage return is no line end here, because
texts have their line ends made uniform before they are read.

Classes that ask what comes next take an `Option Char`, where `none` is the end of the text.
-/

namespace FormPublisher.Yaml

/-- A character that ends a line. -/
def isBreak (c : Char) : Bool :=
  c = '\n' || c.toNat = 0x85 || c.toNat = 0x2028 || c.toNat = 0x2029

/-- A line end as it stands in a scalar: the next-line character counts as a line feed. -/
def normalBreak (c : Char) : Char := if c.toNat = 0x85 then '\n' else c

/-- A space or a tab. -/
def isBlank (c : Char) : Bool := c = ' ' || c = '\t'

/-- Whether what comes next cannot belong to a word. -/
def isGap : Option Char → Bool
  | none => true
  | some c => isBlank c || isBreak c

/-- Whether what comes next is a space or the end of the line. -/
def isSpaceOrEnd : Option Char → Bool
  | none => true
  | some c => c = ' ' || isBreak c

/-- Whether what comes next is the end of the line. -/
def isLineEnd : Option Char → Bool
  | none => true
  | some c => isBreak c

/-- A character of the names of anchors, directives and tag handles. -/
def isNameChar (c : Char) : Bool := c.isAlphanum || c = '-' || c = '_'

/-- A character of the rest of a tag. -/
def isUriChar (c : Char) : Bool :=
  c.isAlphanum || ['-', ';', '/', '?', ':', '@', '&', '=', '+', '$', ',', '_', '.', '!', '~', '*',
    '\'', '(', ')', '[', ']'].contains c

/-- The byte order mark, which takes up no column. -/
def byteOrderMark : Char := Char.ofNat 0xFEFF

/-- A character that may stand in a text. -/
def isReadable (c : Char) : Bool :=
  let n := c.toNat
  n = 9 || n = 10 || n = 13 || (32 ≤ n && n ≤ 126) || n = 0x85 || (0xA0 ≤ n && n ≤ 0xD7FF) ||
    (0xE000 ≤ n && n ≤ 0xFFFD) || 0x10000 ≤ n

/-- Whether a text begins with a mark of three characters `c` and a gap. -/
def startsWithMark (c : Char) : List Char → Bool
  | a :: b :: d :: rest => a = c && b = c && d = c && isGap rest.head?
  | _ => false

/-- Whether a line begins with the mark that starts a document or the one that ends it. -/
def isSeparator (cs : List Char) : Bool := startsWithMark '-' cs || startsWithMark '.' cs

/-- A line end is a gap. -/
theorem isGap_of_isLineEnd {c : Option Char} (h : isLineEnd c) : isGap c := by
  cases c with
  | none => rfl
  | some c =>
    simp only [isLineEnd] at h
    simp [isGap, h]

end FormPublisher.Yaml
