/-!
# Base64

Reading bytes that are written in base sixty-four.  Characters outside the alphabet are skipped.
The text ends at a padding that completes a group of four; a text that stops inside a group has no
meaning.
-/

namespace FormPublisher.Text

/-- The value of a character of the alphabet. -/
def base64Value? (c : Char) : Option Nat :=
  if 'A' ≤ c ∧ c ≤ 'Z' then some (c.toNat - 65)
  else if 'a' ≤ c ∧ c ≤ 'z' then some (c.toNat - 71)
  else if '0' ≤ c ∧ c ≤ '9' then some (c.toNat + 4)
  else if c = '+' then some 62
  else if c = '/' then some 63
  else none

/-- The bytes of what follows inside a group: `size` characters of the group have been read, `left`
is the value of their bits that are not in a byte yet, and `pads` counts the padding just read. -/
def readBase64From? (size left pads : Nat) : List Char → Option (List UInt8)
  | [] => if size = 0 then some [] else none
  | c :: cs =>
    if c = '=' then
      if size < 2 then readBase64From? size left pads cs
      else if 4 ≤ size + pads + 1 then some []
      else readBase64From? size left (pads + 1) cs
    else
      match base64Value? c, size with
      | none, _ => readBase64From? size left pads cs
      | some v, 0 => readBase64From? 1 v 0 cs
      | some v, 1 => (readBase64From? 2 (v % 16) 0 cs).map (UInt8.ofNat (4 * left + v / 16) :: ·)
      | some v, 2 => (readBase64From? 3 (v % 4) 0 cs).map (UInt8.ofNat (16 * left + v / 4) :: ·)
      | some v, _ => (readBase64From? 0 0 0 cs).map (UInt8.ofNat (64 * left + v) :: ·)

/-- The bytes of a text. -/
def readBase64? (cs : List Char) : Option (List UInt8) := readBase64From? 0 0 0 cs

end FormPublisher.Text
