import Mathlib.Data.List.Basic
import Mathlib.Data.Char
import Mathlib.Tactic.SplitIfs

/-!
# Texts in UTF-8

`utf8Bytes` encodes a text one character after another.  Decoding gives the text back, and whatever
can be decoded is the encoding of what it gives (`fromUTF8?_eq_some_iff`).

The first bytes of an encoded text say whether it begins with zero characters or with the character
U+FEFF: no other character has a zero byte, and no byte goes beyond those that begin four.
-/

namespace FormPublisher

/-- The bytes of a text in UTF-8. -/
def utf8Bytes (s : String) : List UInt8 := s.toList.flatMap String.utf8EncodeChar

/-! ### Decoding -/

theorem mk_toArray_utf8Bytes (s : String) : ⟨(utf8Bytes s).toArray⟩ = s.toByteArray := by
  have hbytes : (utf8Bytes s).toByteArray = s.toByteArray := String.utf8Encode_toList
  rw [← hbytes]
  exact ByteArray.ext List.data_toByteArray.symm

theorem fromUTF8?_utf8Bytes (s : String) :
    String.fromUTF8? ⟨(utf8Bytes s).toArray⟩ = some s := by
  rw [mk_toArray_utf8Bytes, String.fromUTF8?, dif_pos s.isValidUTF8]
  rfl

/-- Bytes are decoded to the text that they encode, and to no other. -/
theorem fromUTF8?_eq_some_iff {bytes : List UInt8} {s : String} :
    String.fromUTF8? ⟨bytes.toArray⟩ = some s ↔ utf8Bytes s = bytes := by
  constructor
  · intro h
    unfold String.fromUTF8? at h
    split at h
    · have harray : s.toByteArray = ⟨bytes.toArray⟩ := by
        rw [← Option.some.inj h]
        rfl
      rw [← mk_toArray_utf8Bytes] at harray
      exact List.toArray_inj (ByteArray.mk.inj harray)
    · cases h
  · rintro rfl
    exact fromUTF8?_utf8Bytes s

theorem fromUTF8?_eq_none_iff {bytes : List UInt8} :
    String.fromUTF8? ⟨bytes.toArray⟩ = none ↔ ∀ s, utf8Bytes s ≠ bytes := by
  simp only [Option.eq_none_iff_forall_ne_some, ne_eq, fromUTF8?_eq_some_iff]

/-! ### First bytes -/

/-- A character of ASCII is its own byte.  Any other has two bytes at least, the first of which says
how many there are; neither is zero, and only one character has those of the byte order mark. -/
theorem utf8EncodeChar_cases (c : Char) :
    (c.toNat ≤ 127 ∧ String.utf8EncodeChar c = [UInt8.ofNat c.toNat]) ∨
      ∃ a b rest, String.utf8EncodeChar c = a :: b :: rest ∧
        192 ≤ a.toNat ∧ a.toNat < 248 ∧ 128 ≤ b.toNat ∧
        (a = 0xEF → ∃ d, rest = [d] ∧ (b = 0xBB → d = 0xBF → c = '\uFEFF')) := by
  have hvalue : c.val.toNat = c.toNat := rfl
  unfold String.utf8EncodeChar
  simp only [hvalue]
  split_ifs with hone htwo hthree
  · exact .inl ⟨hone, rfl⟩
  all_goals
    refine .inr ⟨_, _, _, rfl, ?_⟩
    simp only [← UInt8.toNat_inj, UInt8.toNat_ofNat', UInt8.reduceToNat]
    refine ⟨by omega, by omega, by omega, ?_⟩
    intro hfirst
  · omega
  · refine ⟨_, rfl, ?_⟩
    intro hsecond hthird
    rw [UInt8.toNat_ofNat'] at hthird
    -- the digits of the code to the base 64 are known
    have hcode : c.toNat = 0xFEFF := by omega
    exact Char.toNat_inj.mp hcode
  · omega

/-- The first byte of characters is zero only if the first of them is. -/
theorem head?_of_head?_flatMap_utf8EncodeChar {cs : List Char}
    (h : (cs.flatMap String.utf8EncodeChar).head? = some 0) : cs.head? = some '\x00' := by
  cases cs with
  | nil => cases h
  | cons c cs =>
    rw [List.flatMap_cons] at h
    rcases utf8EncodeChar_cases c with ⟨hascii, hbytes⟩ | ⟨a, b, rest, hbytes, hlow, -⟩
    · rw [hbytes, List.singleton_append, List.head?_cons] at h
      have hzero := congrArg UInt8.toNat (Option.some.inj h)
      rw [UInt8.toNat_ofNat', UInt8.toNat_zero] at hzero
      have hcode : c.toNat = '\x00'.toNat := by
        show c.toNat = 0
        omega
      rw [List.head?_cons, Char.toNat_inj.mp hcode]
    · rw [hbytes, List.cons_append, List.head?_cons, Option.some_inj] at h
      rw [h, UInt8.toNat_zero] at hlow
      omega

/-- Among the first two bytes of a text is a zero only if one is among its first two characters. -/
theorem mem_take_of_mem_take_utf8Bytes {s : String} (h : 0 ∈ (utf8Bytes s).take 2) :
    '\x00' ∈ s.toList.take 2 := by
  unfold utf8Bytes at h
  generalize s.toList = cs at h
  cases cs with
  | nil => cases h
  | cons c cs =>
    rw [List.take_succ_cons, List.take_one, List.mem_cons, Option.mem_toList]
    rw [List.flatMap_cons] at h
    -- the second byte is the first one of the next character, or it belongs to this one
    rcases utf8EncodeChar_cases c with ⟨-, hbytes⟩ | ⟨a, b, rest, hbytes, hlow, -, hsecond, -⟩
    · rw [hbytes, List.singleton_append, List.take_succ_cons, List.take_one, List.mem_cons,
        Option.mem_toList] at h
      rcases h with hzero | hzero
      · have hfirst : ((c :: cs).flatMap String.utf8EncodeChar).head? = some 0 := by
          rw [List.flatMap_cons, hbytes, hzero]
          rfl
        exact .inl (Option.some.inj (head?_of_head?_flatMap_utf8EncodeChar hfirst)).symm
      · exact .inr (head?_of_head?_flatMap_utf8EncodeChar hzero)
    · have htwo : 0 = a ∨ 0 = b := by simpa [hbytes] using h
      rcases htwo with rfl | rfl
      · exact absurd hlow (by decide)
      · exact absurd hsecond (by decide)

/-- No first byte announces more than four bytes. -/
theorem toNat_lt_of_head?_utf8Bytes {s : String} {a : UInt8} (h : (utf8Bytes s).head? = some a) :
    a.toNat < 248 := by
  unfold utf8Bytes at h
  generalize s.toList = cs at h
  cases cs with
  | nil => cases h
  | cons c cs =>
    rw [List.flatMap_cons] at h
    rcases utf8EncodeChar_cases c with ⟨hascii, hbytes⟩ | ⟨b, b', rest, hbytes, -, hhigh, -⟩
    · rw [hbytes, List.singleton_append, List.head?_cons, Option.some_inj] at h
      rw [← h, UInt8.toNat_ofNat']
      omega
    · rw [hbytes, List.cons_append, List.head?_cons, Option.some_inj] at h
      rw [← h]
      exact hhigh

/-- The bytes of a byte order mark are those of one character. -/
theorem head?_of_mark_prefix_utf8Bytes {s : String} (h : [0xEF, 0xBB, 0xBF] <+: utf8Bytes s) :
    s.toList.head? = some '\uFEFF' := by
  unfold utf8Bytes at h
  generalize s.toList = cs at h
  cases cs with
  | nil => exact absurd h (by decide)
  | cons c cs =>
    rw [List.flatMap_cons] at h
    rcases utf8EncodeChar_cases c with ⟨hascii, hbytes⟩ | ⟨a, b, rest, hbytes, -, -, -, hmark⟩
    · rw [hbytes, List.singleton_append, List.cons_prefix_cons] at h
      have hfirst : 239 = (UInt8.ofNat c.toNat).toNat := congrArg UInt8.toNat h.1
      rw [UInt8.toNat_ofNat'] at hfirst
      omega
    · -- the mark is one character of three bytes, so it ends with the character it begins in
      rw [hbytes, List.cons_append, List.cons_append, List.cons_prefix_cons,
        List.cons_prefix_cons] at h
      obtain ⟨rfl, rfl, hthird⟩ := h
      obtain ⟨d, rfl, hc⟩ := hmark rfl
      rw [List.singleton_append, List.cons_prefix_cons] at hthird
      rw [List.head?_cons, hc rfl hthird.1.symm]

end FormPublisher
