import FormPublisher.Calendar
import FormPublisher.Proofs.Number.Digits

/-!
# Written dates and times

A date and a time are told apart by their texts (`Date.write_injective`, `DateTime.write_injective`):
every number in them is a run of digits that ends at the sign behind it, and what comes first behind
the seconds, a point or a sign or nothing, says whether there are microseconds and an offset.
-/

namespace FormPublisher

/-! ### Padded numbers -/

theorem toList_padded (width n : Nat) :
    (padded width n).toList =
      List.replicate (width - (Nat.toDigits 10 n).length) '0' ++ Nat.toDigits 10 n := by
  simp only [padded, String.toList_append, String.toList_ofList, Numeral.toList_toString,
    ← String.length_toList]

theorem isDigit_of_mem_padded {width n : Nat} : ∀ c ∈ (padded width n).toList, c.isDigit := by
  rw [toList_padded]
  exact Numeral.isDigit_of_mem_zeros_append

theorem padded_ne_nil (width n : Nat) : (padded width n).toList ≠ [] := by
  rw [toList_padded]
  exact fun h => Nat.toDigits_ne_nil (List.append_eq_nil_iff.mp h).2

section Padded

variable {width m n : Nat} {rest rest' : List Char}

/-- A padded number before what begins with no digit is found again. -/
theorem padded_append_inj (hrest : ∀ c ∈ rest.head?, c.isDigit = false)
    (hrest' : ∀ c ∈ rest'.head?, c.isDigit = false)
    (h : (padded width m).toList ++ rest = (padded width n).toList ++ rest') :
    m = n ∧ rest = rest' := by
  obtain ⟨hdigits, hrest⟩ :=
    Numeral.append_inj_of_isDigit isDigit_of_mem_padded hrest isDigit_of_mem_padded hrest' h
  refine ⟨?_, hrest⟩
  have hvalue := congrArg Numeral.ofDigits hdigits
  rwa [toList_padded, toList_padded, Numeral.ofDigits_zeros_append,
    Numeral.ofDigits_zeros_append] at hvalue

/-- No two numbers are padded to the same text. -/
theorem padded_injective (h : (padded width m).toList = (padded width n).toList) : m = n := by
  have happend : (padded width m).toList ++ [] = (padded width n).toList ++ [] := by rw [h]
  exact (padded_append_inj (by simp) (by simp) happend).1

/-- A padded number before a sign is found again. -/
theorem padded_cons_inj {sign : Char} (hsign : sign.isDigit = false)
    (h : (padded width m).toList ++ sign :: rest = (padded width n).toList ++ sign :: rest') :
    m = n ∧ rest = rest' := by
  obtain ⟨hnumber, htail⟩ := padded_append_inj (by simpa using hsign) (by simpa using hsign) h
  exact ⟨hnumber, (List.cons.inj htail).2⟩

end Padded

/-! ### Dates -/

/-- A date before what begins with no digit is found again. -/
theorem Date.write_append_inj {d d' : Date} {rest rest' : List Char}
    (hrest : ∀ c ∈ rest.head?, c.isDigit = false) (hrest' : ∀ c ∈ rest'.head?, c.isDigit = false)
    (h : d.write.toList ++ rest = d'.write.toList ++ rest') : d = d' ∧ rest = rest' := by
  have hdash : "-".toList = ['-'] := rfl
  simp only [Date.write, String.toList_append, hdash, List.append_assoc, List.singleton_append] at h
  obtain ⟨hyear, h⟩ := padded_cons_inj rfl h
  obtain ⟨hmonth, h⟩ := padded_cons_inj rfl h
  obtain ⟨hday, h⟩ := padded_append_inj hrest hrest' h
  refine ⟨?_, h⟩
  cases d
  cases d'
  simp_all

/-- No two dates have the same text. -/
theorem Date.write_injective {d d' : Date} (h : d.write = d'.write) : d = d' := by
  have happend : d.write.toList ++ [] = d'.write.toList ++ [] := by rw [h]
  exact (write_append_inj (by simp) (by simp) happend).1

/-! ### Times -/

namespace DateTime

/-- The text of the microseconds, if there are any. -/
def fractionText (n : Nat) : List Char := if n = 0 then [] else '.' :: (padded 6 n).toList

/-- The text of the offset, if there is one. -/
def offsetText : Option Int → List Char
  | none => []
  | some minutes => (writeOffset minutes).toList

/-- A time is written as its date, its time of day, its microseconds and its offset. -/
theorem toList_write (t : DateTime) :
    (t.write " ").toList = t.date.write.toList ++ ' ' :: ((padded 2 t.hour).toList ++
      ':' :: ((padded 2 t.minute).toList ++ ':' :: ((padded 2 t.second).toList ++
        (fractionText t.microsecond ++ offsetText t.offset)))) := by
  have hspace : " ".toList = [' '] := rfl
  have hcolon : ":".toList = [':'] := rfl
  have hfraction : (if t.microsecond = 0 then "" else "." ++ padded 6 t.microsecond).toList =
      fractionText t.microsecond := by
    unfold fractionText
    split
    · rfl
    · rw [String.toList_append]
      rfl
  obtain ⟨date, hour, minute, second, microsecond, offset⟩ := t
  unfold write
  simp only [String.toList_append, hspace, hcolon, hfraction, List.append_assoc,
    List.singleton_append]
  cases offset <;> rfl

/-- An offset begins with its sign. -/
theorem toList_writeOffset (minutes : Int) :
    (writeOffset minutes).toList = (if minutes < 0 then '-' else '+') ::
      ((padded 2 (minutes.natAbs / 60)).toList ++
        ':' :: (padded 2 (minutes.natAbs % 60)).toList) := by
  have hcolon : ":".toList = [':'] := rfl
  have hsign : (if minutes < 0 then "-" else "+").toList = [if minutes < 0 then '-' else '+'] := by
    split <;> rfl
  unfold writeOffset
  simp only [String.toList_append, hsign, hcolon, List.append_assoc, List.cons_append,
    List.nil_append]

/-- No offset is written with a point or a digit in front. -/
theorem head?_offsetText (o : Option Int) : ∀ c ∈ (offsetText o).head?, c = '-' ∨ c = '+' := by
  cases o with
  | none => simp [offsetText]
  | some minutes =>
    rw [offsetText, toList_writeOffset]
    split <;> simp

/-- No two offsets have the same text. -/
theorem offsetText_injective {o o' : Option Int} (h : offsetText o = offsetText o') : o = o' := by
  cases o with
  | none =>
    cases o' with
    | none => rfl
    | some n =>
      rw [offsetText, offsetText, toList_writeOffset] at h
      cases h
  | some m =>
    cases o' with
    | none =>
      rw [offsetText, offsetText, toList_writeOffset] at h
      cases h
    | some n =>
      simp only [offsetText, toList_writeOffset, List.cons.injEq] at h
      obtain ⟨hsign, h⟩ := h
      obtain ⟨hhours, h⟩ := padded_cons_inj rfl h
      have hminutes := padded_injective h
      have hnegative : m < 0 ↔ n < 0 := by
        by_cases hm : m < 0 <;> by_cases hn : n < 0 <;> simp [hm, hn] at hsign ⊢
      exact congrArg some (by omega)

/-- The microseconds and the offset are told apart by the sign that comes first. -/
theorem fractionText_append_inj {m n : Nat} {o o' : Option Int}
    (h : fractionText m ++ offsetText o = fractionText n ++ offsetText o') : m = n ∧ o = o' := by
  have hdigit : ∀ o : Option Int, ∀ c ∈ (offsetText o).head?, c.isDigit = false := by
    intro o c hc
    rcases head?_offsetText o c hc with rfl | rfl <;> rfl
  have hpoint : ∀ (o : Option Int) cs, offsetText o ≠ '.' :: cs := by
    intro o cs ho
    rcases head?_offsetText o '.' (by rw [ho]; rfl) with hc | hc <;> cases hc
  unfold fractionText at h
  split_ifs at h with hm hn hn
  · exact ⟨by rw [hm, hn], offsetText_injective h⟩
  · exact absurd h (hpoint o _)
  · exact absurd h.symm (hpoint o' _)
  · rw [List.cons_append, List.cons_append, List.cons.injEq] at h
    obtain ⟨hnumber, hrest⟩ := padded_append_inj (hdigit o) (hdigit o') h.2
    exact ⟨hnumber, offsetText_injective hrest⟩

/-- No two times have the same text. -/
theorem write_injective {t t' : DateTime} (h : t.write " " = t'.write " ") : t = t' := by
  have hrest : ∀ t : DateTime, ∀ c ∈ (fractionText t.microsecond ++ offsetText t.offset).head?,
      c.isDigit = false := by
    intro t c hc
    unfold fractionText at hc
    split at hc
    · rcases head?_offsetText t.offset c hc with rfl | rfl <;> rfl
    · obtain rfl : '.' = c := by simpa using hc
      rfl
  have hchars := congrArg String.toList h
  rw [toList_write, toList_write] at hchars
  obtain ⟨hdate, hchars⟩ := Date.write_append_inj (by simp) (by simp) hchars
  obtain ⟨hhour, hchars⟩ := padded_cons_inj rfl (List.cons.inj hchars).2
  obtain ⟨hminute, hchars⟩ := padded_cons_inj rfl hchars
  obtain ⟨hsecond, hchars⟩ := padded_append_inj (hrest t) (hrest t') hchars
  obtain ⟨hmicrosecond, hoffset⟩ := fractionText_append_inj hchars
  cases t
  cases t'
  simp_all

end DateTime

end FormPublisher
