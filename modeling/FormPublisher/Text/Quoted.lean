import FormPublisher.Text.Hex
import FormPublisher.Text.Printable
import FormPublisher.Text.Surrogate

/-!
# Quoted text

The quoted form of a text inside a written list or mapping.  The mark is the single quote, unless
the text holds single quotes and no double quote.  The mark and the backslash are escaped by a
backslash, the tab and the two line ends have letters, and a character that is not printable is
written by its code in two, four or eight hexadecimal digits; so is a surrogate, which is no
character at all.  The quoted form of bytes has a leading `b` and the same rules with every byte
outside printable ASCII written by its code.
-/

namespace FormPublisher.Text

/-- The quotation mark for a text. -/
def quoteMark (cs : List Char) : Char :=
  if cs.contains '\'' && !cs.contains '"' then '"' else '\''

/-- The shortest code escape that can hold a character. -/
def codeEscape (n : Nat) : List Char :=
  if n < 0x100 then ['\\', 'x'] ++ hexDigits 2 n
  else if n < 0x10000 then ['\\', 'u'] ++ hexDigits 4 n
  else ['\\', 'U'] ++ hexDigits 8 n

/-- A character as it stands between quotation marks, given which characters stand for
themselves. -/
def quoteChar (plain : Char → Bool) (mark c : Char) : List Char :=
  if c = mark ∨ c = '\\' then ['\\', c]
  else if c = '\t' then ['\\', 't']
  else if c = '\n' then ['\\', 'n']
  else if c = '\r' then ['\\', 'r']
  else if plain c then [c]
  else codeEscape c.toNat

/-- The characters between quotation marks, with the marks. -/
def quoteWith (plain : Char → Bool) (cs : List Char) : List Char :=
  let mark := quoteMark cs
  mark :: cs.flatMap (quoteChar plain mark) ++ [mark]

/-- The quoted form of a text. -/
def quoted (s : String) : String := String.ofList (quoteWith isPrintable s.toList)

/-- The quoted form of a text that is given by its code points. -/
def quotedPoints (points : List Nat) : String :=
  let mark := quoteMark (points.map ofPoint)
  let quotePoint (u : Nat) : List Char :=
    if isSurrogate u then codeEscape u else quoteChar isPrintable mark (ofPoint u)
  String.ofList (mark :: points.flatMap quotePoint ++ [mark])

/-- The quoted form of bytes. -/
def quotedBytes (bytes : List UInt8) : String :=
  let plain (c : Char) : Bool := 32 ≤ c.toNat && c.toNat < 127
  String.ofList ('b' :: quoteWith plain (bytes.map fun b => Char.ofNat b.toNat))

end FormPublisher.Text
