import FormPublisher.Text.Quoted
import Mathlib.Data.List.Basic
import Mathlib.Tactic.NormNum

/-!
# Quoted bytes

The quoted form of bytes tells them apart (`quotedBytes_injective`).  What stands between the marks
is read back one byte at a time, whatever follows it (`unquote?_quoteChar_append`): a backslash
announces a letter, two hexadecimal digits or the character itself, and any other character stands
for itself.
-/

namespace FormPublisher.Text

/-- The first character of quoted text, and what follows it. -/
def unquote? : List Char → Option (Char × List Char)
  | '\\' :: 'x' :: a :: b :: rest => do
    return (Char.ofNat (16 * (← hexValue? a) + (← hexValue? b)), rest)
  | '\\' :: c :: rest =>
    some (if c = 't' then '\t' else if c = 'n' then '\n' else if c = 'r' then '\r' else c, rest)
  | c :: rest => some (c, rest)
  | [] => none

/-- A character of one byte is read back from its quoted form. -/
theorem unquote?_quoteChar_append (plain : Char → Bool) {mark c : Char}
    (hmark : mark = '\'' ∨ mark = '"') (hc : c.toNat < 256) (rest : List Char) :
    unquote? (quoteChar plain mark c ++ rest) = some (c, rest) := by
  unfold quoteChar
  split_ifs with hescaped htab hline hreturn hplain
  · obtain rfl | rfl | rfl : c = '\'' ∨ c = '"' ∨ c = '\\' := by
      rcases hescaped with rfl | rfl
      · rcases hmark with rfl | rfl <;> simp
      · simp
    all_goals rfl
  · subst htab
    rfl
  · subst hline
    rfl
  · subst hreturn
    rfl
  · rw [not_or] at hescaped
    simp [unquote?, hescaped.2]
  · have hhigh : c.toNat / 16 % 16 = c.toNat / 16 := Nat.mod_eq_of_lt (by omega)
    have hdigits : codeEscape c.toNat =
        ['\\', 'x', hexDigit (c.toNat / 16), hexDigit (c.toNat % 16)] := by
      rw [codeEscape, if_pos hc]
      simp [hexDigits, hhigh]
    rw [hdigits]
    simp only [List.cons_append, List.nil_append, unquote?,
      hexValue?_hexDigit (show c.toNat / 16 < 16 by omega),
      hexValue?_hexDigit (show c.toNat % 16 < 16 by omega)]
    simp [Nat.div_add_mod]

/-- Characters of one byte are told apart by their quoted forms, one behind another. -/
theorem eq_of_flatMap_quoteChar_eq (plain : Char → Bool) {mark : Char}
    (hmark : mark = '\'' ∨ mark = '"') {cs ds : List Char} (hcs : ∀ c ∈ cs, c.toNat < 256)
    (hds : ∀ d ∈ ds, d.toNat < 256)
    (h : cs.flatMap (quoteChar plain mark) = ds.flatMap (quoteChar plain mark)) : cs = ds := by
  have hread : ∀ c cs, c.toNat < 256 →
      unquote? ((c :: cs).flatMap (quoteChar plain mark)) =
        some (c, cs.flatMap (quoteChar plain mark)) := by
    intro c cs hc
    rw [List.flatMap_cons, unquote?_quoteChar_append plain hmark hc]
  induction cs generalizing ds with
  | nil =>
    cases ds with
    | nil => rfl
    | cons d ds =>
      have hd := hread d ds (hds d List.mem_cons_self)
      rw [← h] at hd
      cases hd
  | cons c cs ih =>
    have hc := hread c cs (hcs c List.mem_cons_self)
    cases ds with
    | nil =>
      rw [h] at hc
      cases hc
    | cons d ds =>
      rw [h, hread d ds (hds d List.mem_cons_self), Option.some.injEq, Prod.mk.injEq] at hc
      rw [hc.1, ih (fun c h => hcs c (List.mem_cons_of_mem _ h))
        (fun d h => hds d (List.mem_cons_of_mem _ h)) hc.2.symm]

theorem quoteMark_eq_or (cs : List Char) : quoteMark cs = '\'' ∨ quoteMark cs = '"' := by
  unfold quoteMark
  split
  · exact .inr rfl
  · exact .inl rfl

/-- The character of a byte has its code. -/
theorem toNat_ofNat_byte (b : UInt8) : (Char.ofNat b.toNat).toNat = b.toNat := by
  have hvalid : b.toNat.isValidChar := .inl (lt_trans b.toNat_lt (by norm_num))
  unfold Char.ofNat
  rw [dif_pos hvalid]
  rfl

/-- No two rows of bytes have the same quoted form. -/
theorem quotedBytes_injective {bs bs' : List UInt8} (h : quotedBytes bs = quotedBytes bs') :
    bs = bs' := by
  unfold quotedBytes at h
  dsimp only at h
  rw [String.ofList_inj, List.cons.injEq] at h
  have hbytes : ∀ bs : List UInt8, ∀ c ∈ bs.map (fun b => Char.ofNat b.toNat), c.toNat < 256 := by
    intro bs c hc
    obtain ⟨b, -, rfl⟩ := List.mem_map.mp hc
    rw [toNat_ofNat_byte]
    exact b.toNat_lt
  -- the mark is the first character, and what stands up to the last one is the quoted text
  have hquoted := h.2
  simp only [quoteWith, List.cons_append, List.cons.injEq] at hquoted
  rw [← hquoted.1] at hquoted
  have hchars := eq_of_flatMap_quoteChar_eq _ (quoteMark_eq_or _) (hbytes bs) (hbytes bs')
    (List.append_cancel_right hquoted.2)
  refine List.map_injective_iff.mpr ?_ hchars
  intro a b hab
  have htoNat := congrArg Char.toNat hab
  rw [toNat_ofNat_byte, toNat_ofNat_byte] at htoNat
  exact UInt8.toNat_inj.mp htoNat

end FormPublisher.Text
