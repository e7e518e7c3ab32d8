import FormPublisher.Proofs.Number.Text
import FormPublisher.Proofs.Text.Quoted
import FormPublisher.Proofs.Value.Calendar

/-!
# What is written for a scalar

Scalars that are no texts are told apart by what is written for them (`Scalar.eq_of_display_eq`).
What is written says of what kind a scalar is (`ofSpelling_display`): nothing, the truth values and
bytes begin with a letter of their own, only times have a space, only decimals a point, an `e` or an
`n`, and of the others only days have a dash inside.

A text may be what is written for another scalar, as `1` is for the number one.
-/

namespace FormPublisher

/-- A decimal is one of the doubles. -/
def Scalar.IsDouble : Scalar → Prop
  | .float x => x.IsDouble
  | _ => True

instance (s : Scalar) : Decidable s.IsDouble := by
  unfold Scalar.IsDouble
  split <;> infer_instance

/-! ### Kinds -/

/-- The kind of the scalar that is no text and is written like this. -/
def Kind.ofSpelling (cs : List Char) : Kind :=
  if cs.head? = some 'N' then .null
  else if cs.head? = some 'T' ∨ cs.head? = some 'F' then .bool
  else if cs.head? = some 'b' then .bytes
  else if ' ' ∈ cs then .time
  else if '.' ∈ cs ∨ 'e' ∈ cs ∨ 'n' ∈ cs then .float
  else if '-' ∈ cs.tail then .date
  else .int

namespace Kind

open Numeral

/-- What begins with a character of a number begins with no letter of another kind. -/
theorem ofSpelling_of_head {c : Char} {cs : List Char} (hc : isNumberChar c) :
    ofSpelling (c :: cs) =
      if ' ' ∈ c :: cs then .time
      else if '.' ∈ c :: cs ∨ 'e' ∈ c :: cs ∨ 'n' ∈ c :: cs then .float
      else if '-' ∈ cs then .date
      else .int := by
  have hne : ∀ d, isNumberChar d = false → c ≠ d := by
    rintro d hd rfl
    rw [hc] at hd
    cases hd
  have hnull : (c :: cs).head? ≠ some 'N' := by simpa using hne 'N' rfl
  have hbool : ¬((c :: cs).head? = some 'T' ∨ (c :: cs).head? = some 'F') := by
    simp [hne 'T' rfl, hne 'F' rfl]
  have hbytes : (c :: cs).head? ≠ some 'b' := by simpa using hne 'b' rfl
  unfold ofSpelling
  rw [if_neg hnull, if_neg hbool, if_neg hbytes]
  rfl

/-- Of what is written with the characters of numbers the point and the `e` mark the decimals, and a
dash inside the days. -/
theorem ofSpelling_of_isNumberChar {c : Char} {cs : List Char}
    (h : ∀ d ∈ c :: cs, isNumberChar d) :
    ofSpelling (c :: cs) =
      if '.' ∈ c :: cs ∨ 'e' ∈ c :: cs then .float
      else if '-' ∈ cs then .date
      else .int := by
  have hnot : ∀ d, isNumberChar d = false → d ∉ c :: cs := by
    intro d hd hmem
    rw [h d hmem] at hd
    cases hd
  rw [ofSpelling_of_head (h c List.mem_cons_self), if_neg (hnot ' ' rfl)]
  simp only [hnot 'n' rfl, or_false]

/-- A run of digits is an integer, behind a sign or not. -/
theorem ofSpelling_of_isDigit {c : Char} {cs : List Char} (hc : c.isDigit ∨ c = '-')
    (hcs : ∀ d ∈ cs, d.isDigit) : ofSpelling (c :: cs) = .int := by
  have hdigit : ∀ d : Char, d.isDigit → isNumberChar d := fun d hd => by simp [isNumberChar, hd]
  have hchars : ∀ d ∈ c :: cs, isNumberChar d := by
    rintro d (_ | ⟨_, hd⟩)
    · rcases hc with hc | rfl
      · exact hdigit c hc
      · rfl
    · exact hdigit d (hcs d hd)
  have hnot : ∀ d, d.isDigit = false → d ∉ cs := by
    intro d hd hmem
    rw [hcs d hmem] at hd
    cases hd
  have hhead : ∀ d, d.isDigit = false → d ≠ '-' → d ≠ c := by
    rintro d hd hne rfl
    rcases hc with hc | hc
    · rw [hc] at hd
      cases hd
    · exact hne hc
  rw [ofSpelling_of_isNumberChar hchars]
  simp only [List.mem_cons, hnot '.' rfl, hnot 'e' rfl, hnot '-' rfl,
    hhead '.' rfl (by decide), hhead 'e' rfl (by decide), or_self, if_false]

/-- An integer is written as one. -/
theorem ofSpelling_int (n : Int) : ofSpelling (toString n).toList = .int := by
  cases n with
  | ofNat n =>
    rw [toList_toString_ofNat]
    obtain ⟨c, cs, hcs⟩ := List.exists_cons_of_ne_nil (Nat.toDigits_ne_nil (n := n) (b := 10))
    have hdigit : ∀ d ∈ c :: cs, d.isDigit := hcs ▸ isDigit_of_mem_toDigits
    rw [hcs]
    exact ofSpelling_of_isDigit (.inl (hdigit c List.mem_cons_self))
      fun d hd => hdigit d (List.mem_cons_of_mem _ hd)
  | negSucc n =>
    rw [toList_toString_negSucc]
    exact ofSpelling_of_isDigit (.inr rfl) isDigit_of_mem_toDigits

/-- A decimal is written as one. -/
theorem ofSpelling_float {x : Binary64} (hx : x.IsDouble) :
    ofSpelling (x.write displayLayout).toList = .float := by
  cases x with
  | nan => decide +kernel
  | infinite negative => cases negative <;> decide +kernel
  | finite negative m e =>
    obtain ⟨p, hp, htext, -⟩ := exists_parts_write hx
    rw [htext]
    have hchars : ∀ c ∈ (if negative then ['-'] else []) ++ p.text 2, isNumberChar c := by
      refine List.forall_mem_append.mpr ⟨?_, isNumberChar_of_mem_text 2 hp⟩
      cases negative <;> simp [isNumberChar]
    have hmark : '.' ∈ p.text 2 ∨ 'e' ∈ p.text 2 := by
      by_cases hfraction : p.fraction = []
      · cases hexponent : p.exponent with
        | none => exact absurd hfraction (hp.fraction_ne_nil hexponent)
        | some k =>
          right
          simp [DecimalParts.text, DecimalParts.exponentText, hexponent, toList_writeExponent]
      · left
        simp [DecimalParts.text, DecimalParts.pointText, hfraction]
    obtain ⟨c, cs, hcs⟩ : ∃ c cs, (if negative then ['-'] else []) ++ p.text 2 = c :: cs := by
      refine List.exists_cons_of_ne_nil fun hnil => ?_
      rw [(List.append_eq_nil_iff.mp hnil).2] at hmark
      simp at hmark
    rw [hcs] at hchars ⊢
    rw [ofSpelling_of_isNumberChar hchars, if_pos]
    rw [← hcs]
    exact hmark.imp (List.mem_append_right _) (List.mem_append_right _)

/-- The first digit of a day. -/
theorem exists_write_eq_cons (d : Date) :
    ∃ c cs, d.write.toList = c :: cs ∧ '-' ∈ cs ∧ ∀ e ∈ c :: cs, e.isDigit ∨ e = '-' := by
  have hdash : "-".toList = ['-'] := rfl
  obtain ⟨c, cs, hcs⟩ := List.exists_cons_of_ne_nil (padded_ne_nil 4 d.year)
  have hyear : ∀ e ∈ c :: cs, e.isDigit := hcs ▸ isDigit_of_mem_padded
  have hmonth : ∀ e ∈ (padded 2 d.month).toList, e.isDigit := isDigit_of_mem_padded
  have hday : ∀ e ∈ (padded 2 d.day).toList, e.isDigit := isDigit_of_mem_padded
  refine ⟨c, cs ++ '-' :: ((padded 2 d.month).toList ++ '-' :: (padded 2 d.day).toList), ?_, ?_, ?_⟩
  · simp [Date.write, hcs, hdash]
  · simp
  · intro e he
    simp only [List.mem_cons, List.mem_append] at he hyear
    rcases he with he | he | he | he | he | he
    · exact .inl (hyear e (.inl he))
    · exact .inl (hyear e (.inr he))
    · exact .inr he
    · exact .inl (hmonth e he)
    · exact .inr he
    · exact .inl (hday e he)

/-- A day is written as one. -/
theorem ofSpelling_date (d : Date) : ofSpelling d.write.toList = .date := by
  obtain ⟨c, cs, hcs, hdash, hchars⟩ := exists_write_eq_cons d
  have hnumber : ∀ e ∈ c :: cs, isNumberChar e := by
    intro e he
    rcases hchars e he with he | rfl
    · simp [isNumberChar, he]
    · rfl
  have hnot : ¬('.' ∈ c :: cs ∨ 'e' ∈ c :: cs) := by
    rintro (hmem | hmem)
    · rcases hchars _ hmem with h | h <;> cases h
    · rcases hchars _ hmem with h | h <;> cases h
  rw [hcs, ofSpelling_of_isNumberChar hnumber, if_neg hnot, if_pos hdash]

/-- A time is written as one. -/
theorem ofSpelling_time (t : DateTime) : ofSpelling (t.write " ").toList = .time := by
  obtain ⟨c, cs, hcs, -, hchars⟩ := exists_write_eq_cons t.date
  have hc : isNumberChar c := by
    rcases hchars c List.mem_cons_self with hc | rfl
    · simp [isNumberChar, hc]
    · rfl
  rw [DateTime.toList_write, hcs, List.cons_append, ofSpelling_of_head hc, if_pos (by simp)]

/-- What is written for a scalar that is no text says of what kind it is. -/
theorem ofSpelling_display {s : Scalar} (hs : s.kind ≠ .text) (hdouble : s.IsDouble) :
    ofSpelling s.display.toList = s.kind := by
  cases s with
  | null => rfl
  | bool b => cases b <;> rfl
  | int n => exact ofSpelling_int n
  | float x => exact ofSpelling_float hdouble
  | text s => exact absurd rfl hs
  | torn points => exact absurd rfl hs
  | bytes bs =>
    show ofSpelling (Text.quotedBytes bs).toList = .bytes
    rw [Text.quotedBytes, String.toList_ofList]
    rfl
  | date d => exact ofSpelling_date d
  | time t => exact ofSpelling_time t

end Kind

/-! ### Scalars -/

namespace Scalar

/-- No two scalars that are no texts are written alike. -/
theorem eq_of_display_eq {a b : Scalar} (ha : a.kind ≠ .text) (hb : b.kind ≠ .text)
    (hadouble : a.IsDouble) (hbdouble : b.IsDouble) (h : a.display = b.display) : a = b := by
  have hkind : a.kind = b.kind := by
    rw [← Kind.ofSpelling_display ha hadouble, h, Kind.ofSpelling_display hb hbdouble]
  cases a with
  | null => cases b <;> first | rfl | cases hkind
  | bool a =>
    cases b <;> try cases hkind
    case bool b => cases a <;> cases b <;> first | rfl | exact absurd h (by decide)
  | int m =>
    cases b <;> try cases hkind
    case int n => exact congrArg int (Int.repr_injective h)
  | float x =>
    cases b <;> try cases hkind
    case float y => exact congrArg float (Numeral.write_injective hadouble hbdouble h)
  | text s => exact absurd rfl ha
  | torn points => exact absurd rfl ha
  | bytes bs =>
    cases b <;> try cases hkind
    case bytes bs' => exact congrArg bytes (Text.quotedBytes_injective h)
  | date d =>
    cases b <;> try cases hkind
    case date d' => exact congrArg date (Date.write_injective h)
  | time t =>
    cases b <;> try cases hkind
    case time t' => exact congrArg time (DateTime.write_injective h)

/-- Only the number that is no number is not the same key as itself. -/
theorem sameKey_self {a : Scalar} (h : a ≠ .float .nan) : a.sameKey a := by
  cases a with
  | float x =>
    cases x with
    | nan => exact absurd rfl h
    | infinite negative => simp [sameKey, number?, Binary64.sameValue]
    | finite negative m e => simp [sameKey, number?, Binary64.sameValue, Binary64.value?]
  | time t => simp [sameKey, number?, DateTime.sameInstant]
  | _ => simp [sameKey, number?]

end Scalar

end FormPublisher
