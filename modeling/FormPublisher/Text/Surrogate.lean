/-!
# Surrogate pairs

A character above U+FFFF is written in sixteen-bit units as a pair of surrogates.  `units` gives the
units of a character and `joinPairs` puts pairs together again, so that the code points are those of
the characters written (`joinPairs_flatMap_units`).  A surrogate without its partner is a code
point, but no character; where a character is needed, it becomes the replacement character.
-/

namespace FormPublisher.Text

/-- The character that stands for what is no character. -/
def replacement : Char := Char.ofNat 0xFFFD

/-- A first surrogate. -/
def isLead (u : Nat) : Bool := 0xD800 ≤ u && u < 0xDC00

/-- A second surrogate. -/
def isTrail (u : Nat) : Bool := 0xDC00 ≤ u && u < 0xE000

/-- A surrogate. -/
def isSurrogate (u : Nat) : Bool := isLead u || isTrail u

/-- The code points and sixteen-bit units of a character: itself up to U+FFFF, and a pair of
surrogates above. -/
def units (c : Char) : List Nat :=
  let n := c.toNat
  if n < 0x10000 then [n]
  else [0xD800 + (n - 0x10000) / 0x400, 0xDC00 + (n - 0x10000) % 0x400]

/-- The code points that code points and units denote. -/
def joinPairs : List Nat → List Nat
  | [] => []
  | [u] => [u]
  | u :: w :: us =>
    if isLead u && isTrail w then
      (0x10000 + (u - 0xD800) * 0x400 + (w - 0xDC00)) :: joinPairs us
    else u :: joinPairs (w :: us)

/-- The character of a code point. -/
def ofPoint (u : Nat) : Char := if isSurrogate u then replacement else Char.ofNat u

/-- The code points of a text. -/
def points (s : String) : List Nat := s.toList.map Char.toNat

/-- The text of code points; what is no character is replaced. -/
def ofPoints (us : List Nat) : String := String.ofList (us.map ofPoint)

/-- No character is a surrogate. -/
theorem isSurrogate_toNat (c : Char) : isSurrogate c.toNat = false := by
  have h := c.valid
  simp only [UInt32.isValidChar, Nat.isValidChar] at h
  have e : c.val.toNat = c.toNat := rfl
  rw [e] at h
  simp only [isSurrogate, isLead, isTrail, Bool.or_eq_false_iff, Bool.and_eq_false_iff,
    decide_eq_false_iff_not]
  omega

/-- The code point of a character is that of the same character. -/
@[simp] theorem ofPoint_toNat (c : Char) : ofPoint c.toNat = c := by
  simp [ofPoint, isSurrogate_toNat]

/-- The code points of a text make the same text. -/
@[simp] theorem ofPoints_points (s : String) : ofPoints (points s) = s := by
  simp [ofPoints, points, Function.comp_def]

/-- The units of characters are put together to the code points of the same characters. -/
theorem joinPairs_flatMap_units (cs : List Char) :
    joinPairs (cs.flatMap units) = cs.map Char.toNat := by
  induction cs with
  | nil => rfl
  | cons c cs ih =>
    rw [List.flatMap_cons, List.map_cons]
    by_cases hn : c.toNat < 0x10000
    · have hu : units c = [c.toNat] := by simp [units, hn]
      have hl : isLead c.toNat = false := by
        have h := isSurrogate_toNat c
        simp only [isSurrogate, Bool.or_eq_false_iff] at h
        exact h.1
      rw [hu]
      cases hr : cs.flatMap units with
      | nil => rw [hr] at ih; rw [← ih]; rfl
      | cons w us =>
        rw [hr] at ih
        simp [joinPairs, hl, ih]
    · have hmax : c.toNat < 0x110000 := by
        have h := c.valid
        simp only [UInt32.isValidChar, Nat.isValidChar] at h
        have e : c.val.toNat = c.toNat := rfl
        rw [e] at h
        omega
      have hu : units c =
          [0xD800 + (c.toNat - 0x10000) / 0x400, 0xDC00 + (c.toNat - 0x10000) % 0x400] := by
        simp [units, hn]
      have lead : isLead (0xD800 + (c.toNat - 0x10000) / 0x400) = true := by
        simp only [isLead, Bool.and_eq_true, decide_eq_true_eq]; omega
      have trail : isTrail (0xDC00 + (c.toNat - 0x10000) % 0x400) = true := by
        simp only [isTrail, Bool.and_eq_true, decide_eq_true_eq]; omega
      have back : 0x10000 + (0xD800 + (c.toNat - 0x10000) / 0x400 - 0xD800) * 0x400 +
          (0xDC00 + (c.toNat - 0x10000) % 0x400 - 0xDC00) = c.toNat := by omega
      rw [hu]
      simp only [List.cons_append, List.nil_append, joinPairs, lead, trail, Bool.and_self, if_true,
        back, ih]

end FormPublisher.Text
