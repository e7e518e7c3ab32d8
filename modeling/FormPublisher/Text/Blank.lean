/-!
# White space

The characters that count as white space around a numeral: the tab, the line ends and the space of
ASCII, and every separator of Unicode beyond it.  The control characters that part files, groups,
records and units do not count, although Unicode calls them white space in other places.
-/

namespace FormPublisher.Text

/-- The white space of ASCII: the tab, the line feed, the vertical tab, the form feed, the carriage
return and the space. -/
def isAsciiBlank (c : Char) : Bool := (9 ≤ c.toNat && c.toNat ≤ 13) || c.toNat == 32

/-- White space. -/
def isBlank (c : Char) : Bool :=
  let n := c.toNat
  isAsciiBlank c || n == 133 || n == 160 || n == 5760 || (8192 ≤ n && n ≤ 8202) || n == 8232 ||
    n == 8233 || n == 8239 || n == 8287 || n == 12288

/-- Every blank of ASCII is a blank. -/
theorem isBlank_of_isAsciiBlank {c : Char} (h : isAsciiBlank c) : isBlank c := by
  simp [isBlank, h]

/-- The text without the characters of a class at its two ends. -/
def trim (p : Char → Bool) (cs : List Char) : List Char :=
  ((cs.dropWhile p).reverse.dropWhile p).reverse

/-- The text without the white space around it. -/
def trimBlank (cs : List Char) : List Char := trim isBlank cs

end FormPublisher.Text
