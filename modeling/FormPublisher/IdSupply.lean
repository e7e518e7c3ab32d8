import FormPublisher.Text.Hex

/-!
# Fresh identifiers

An `IdSupply` is a source of numbers of which some have been drawn.  Drawing gives the next number
of the source.  A number is written in thirty-two hexadecimal digits, with hyphens or behind the
word for what it identifies.
-/

namespace FormPublisher

/-- A source of numbers, of which the first `drawn` are used up. -/
structure IdSupply where
  source : Nat → Nat := fun n => n + 1
  drawn : Nat := 0

namespace IdSupply

/-- The supply that counts from one on. -/
def counting : IdSupply := {}

/-- Draws the next number. -/
def draw : StateM IdSupply Nat :=
  modifyGet fun s => (s.source s.drawn, { s with drawn := s.drawn + 1 })

end IdSupply

/-- The identifier of a thing: a word for it and the digits of a number. -/
def identifier (word : String) (n : Nat) : String := word ++ "_" ++ Text.hex 32 n

/-- The digits of a number in groups of eight, four, four, four and twelve. -/
def hyphenated (n : Nat) : String :=
  let cs := Text.hexDigits 32 n
  let group (start size : Nat) : String := String.ofList ((cs.drop start).take size)
  "-".intercalate [group 0 8, group 8 4, group 12 4, group 16 4, group 20 12]

end FormPublisher
