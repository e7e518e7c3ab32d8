import FormPublisher.Proofs.Number.Digits
import FormPublisher.Proofs.Number.Shortest
import FormPublisher.Value.Display

/-!
# Numbers are read back from their texts

The text of a double is read as that double (`readFloat?_write`), so no two doubles have one text.

A decimal is written in parts: digits, a point with digits behind it, and an exponent, of which the
point or the exponent may be missing but not both (`exists_parts_writeDecimal`).  What is read from
such parts is the number that they stand for, however they are laid out
(`readDecimal?_text`).
-/

namespace FormPublisher

/-! ### Parts of a decimal -/

/-- A decimal numeral in parts: the digits before the point and behind it, and the exponent. -/
structure DecimalParts where
  whole : List Char
  fraction : List Char
  exponent : Option Int

namespace DecimalParts

/-- There are digits before the point, and a point or an exponent behind them. -/
structure IsMarked (p : DecimalParts) : Prop where
  whole_ne_nil : p.whole ≠ []
  isDigit_whole : ∀ c ∈ p.whole, c.isDigit
  isDigit_fraction : ∀ c ∈ p.fraction, c.isDigit
  fraction_ne_nil : p.exponent = none → p.fraction ≠ []

/-- The text of the point and the digits behind it. -/
def pointText (p : DecimalParts) : List Char := if p.fraction = [] then [] else '.' :: p.fraction

/-- The text of the exponent, with at least so many digits. -/
def exponentText (width : Nat) (p : DecimalParts) : List Char :=
  match p.exponent with
  | none => []
  | some e => (Binary64.writeExponent width e).toList

/-- The text of the parts. -/
def text (width : Nat) (p : DecimalParts) : List Char :=
  p.whole ++ (p.pointText ++ p.exponentText width)

/-- All digits, as if there were no point. -/
def digits (p : DecimalParts) : Nat := Numeral.ofDigits (p.whole ++ p.fraction)

/-- The exponent of the last digit. -/
def scale (p : DecimalParts) : Int := p.exponent.getD 0 - p.fraction.length

/-- The parts in which a decimal is written: the decimal exponent of its first digit says where the
point stands. -/
def ofDecimal (layout : FloatLayout) (d : Decimal) : DecimalParts :=
  let ds := Nat.toDigits 10 d.digits
  let k : Int := d.exponent + ds.length - 1
  if layout.leastPositional ≤ k ∧ k < layout.positionalLimit then
    if k < 0 then ⟨['0'], List.replicate (-k - 1).toNat '0' ++ ds, none⟩
    else if ds.length ≤ k.toNat + 1 then
      ⟨ds ++ List.replicate (k.toNat + 1 - ds.length) '0', ['0'], none⟩
    else ⟨ds.take (k.toNat + 1), ds.drop (k.toNat + 1), none⟩
  else ⟨ds.take 1, ds.drop 1, some k⟩

end DecimalParts

namespace Numeral

open DecimalParts

/-! ### Reading the parts -/

/-- An exponent part is an `e`, a sign and digits. -/
theorem toList_writeExponent (width : Nat) (e : Int) :
    (Binary64.writeExponent width e).toList = 'e' :: (if e < 0 then '-' else '+') ::
      (List.replicate (width - (Nat.toDigits 10 e.natAbs).length) '0' ++
        Nat.toDigits 10 e.natAbs) := by
  simp only [Binary64.writeExponent, Binary64.zeros, String.toList_append, toList_toString,
    String.toList_ofList, ← String.length_toList]
  split <;> rfl

/-- An exponent part is read as the exponent. -/
theorem readExponent?_writeExponent (width : Nat) (e : Int) :
    readExponent? (Binary64.writeExponent width e).toList = some e := by
  have hdigits : ∀ k, (List.replicate k '0' ++ Nat.toDigits 10 e.natAbs).all Char.isDigit :=
    fun k => List.all_eq_true.mpr isDigit_of_mem_zeros_append
  have hne : ∀ k, List.replicate k '0' ++ Nat.toDigits 10 e.natAbs ≠ [] := fun k h =>
    Nat.toDigits_ne_nil (List.append_eq_nil_iff.mp h).2
  rw [toList_writeExponent]
  split
  case isTrue he =>
    simp only [readExponent?, splitSign]
    rw [if_pos ⟨by decide, hne _, hdigits _⟩, if_true, ofDigits_zeros_append]
    exact congrArg some (by omega)
  case isFalse he =>
    simp only [readExponent?, splitSign]
    rw [if_pos ⟨by decide, hne _, hdigits _⟩, if_neg Bool.false_ne_true, ofDigits_zeros_append]
    exact congrArg some (by omega)

/-- The exponent is read, or zero where there is none. -/
theorem readExponent?_exponentText (width : Nat) (p : DecimalParts) :
    readExponent? (p.exponentText width) = some (p.exponent.getD 0) := by
  unfold exponentText
  split
  case h_1 h => rw [h]; rfl
  case h_2 e h => rw [h, readExponent?_writeExponent]; rfl

/-- An exponent part begins with its letter. -/
theorem head?_exponentText (width : Nat) (p : DecimalParts) :
    ∀ c ∈ (p.exponentText width).head?, c = 'e' := by
  unfold exponentText
  split
  case h_1 => simp
  case h_2 => simp [toList_writeExponent]

/-- What is read from the parts of a decimal is the number that they stand for. -/
theorem readDecimal?_text (negative : Bool) (width : Nat) {p : DecimalParts} (hp : p.IsMarked) :
    readDecimal? negative (p.text width) =
      some (Binary64.ofDecimal negative p.digits p.scale) := by
  have hexponent : ∀ c ∈ (p.exponentText width).head?, c.isDigit = false := by
    intro c hc
    rw [head?_exponentText width p c hc]
    rfl
  have hrest : ∀ c ∈ (p.pointText ++ p.exponentText width).head?, c.isDigit = false := by
    unfold pointText
    split
    · exact hexponent
    · intro c hc
      obtain rfl : '.' = c := by simpa using hc
      rfl
  have hwhole : p.whole.isEmpty = false := List.isEmpty_eq_false_iff.mpr hp.whole_ne_nil
  have hread := readExponent?_exponentText width p
  have hletter := head?_exponentText width p
  unfold readDecimal? text
  rw [takeWhile_isDigit_append hp.isDigit_whole hrest,
    dropWhile_isDigit_append hp.isDigit_whole hrest]
  simp only [hwhole, Bool.false_and, Bool.false_eq_true, if_false]
  by_cases hfraction : p.fraction = []
  · have hpoint : p.pointText = [] := if_pos hfraction
    rw [hpoint, List.nil_append, digits, scale, hfraction]
    generalize p.exponentText width = cs at hread hletter
    cases cs with
    | nil => exact congrArg (Option.map (floatOf negative p.whole [])) hread
    | cons c cs =>
      obtain rfl := hletter c rfl
      exact congrArg (Option.map (floatOf negative p.whole [])) hread
  · have hpoint : p.pointText = '.' :: p.fraction := if_neg hfraction
    rw [hpoint, List.cons_append]
    simp only [takeWhile_isDigit_append hp.isDigit_fraction hexponent,
      dropWhile_isDigit_append hp.isDigit_fraction hexponent, hread]
    rfl

/-! ### Writing the parts -/

section Writing

variable (layout : FloatLayout) (d : Decimal)

/-- The parts in which a decimal is written have a point or an exponent. -/
theorem isMarked_ofDecimal : (DecimalParts.ofDecimal layout d).IsMarked := by
  have hdigit : ∀ c ∈ Nat.toDigits 10 d.digits, c.isDigit := isDigit_of_mem_toDigits
  have hne : Nat.toDigits 10 d.digits ≠ [] := Nat.toDigits_ne_nil
  unfold DecimalParts.ofDecimal
  dsimp only
  split_ifs with hpositional hsmall hlarge
  · exact {
      whole_ne_nil := by simp
      isDigit_whole := by simp
      isDigit_fraction := isDigit_of_mem_zeros_append
      fraction_ne_nil := by simp [hne] }
  · exact {
      whole_ne_nil := by simp [hne]
      isDigit_whole := List.forall_mem_append.mpr ⟨hdigit, isDigit_of_mem_zeros⟩
      isDigit_fraction := by simp
      fraction_ne_nil := by simp }
  · exact {
      whole_ne_nil := by simp [hne]
      isDigit_whole := fun c hc => hdigit c (List.mem_of_mem_take hc)
      isDigit_fraction := fun c hc => hdigit c (List.mem_of_mem_drop hc)
      fraction_ne_nil := by simp; omega }
  · exact {
      whole_ne_nil := by simp [hne]
      isDigit_whole := fun c hc => hdigit c (List.mem_of_mem_take hc)
      isDigit_fraction := fun c hc => hdigit c (List.mem_of_mem_drop hc)
      fraction_ne_nil := by simp }

/-- A decimal is written in its parts. -/
theorem toList_writeDecimal :
    (Binary64.writeDecimal layout d).toList =
      (DecimalParts.ofDecimal layout d).text layout.exponentDigits := by
  have hne : Nat.toDigits 10 d.digits ≠ [] := Nat.toDigits_ne_nil
  have hpoint : ".".toList = ['.'] := rfl
  unfold Binary64.writeDecimal DecimalParts.ofDecimal
  simp only [toList_toString, ← String.length_toList, Bool.and_eq_true, decide_eq_true_eq]
  split_ifs with hpositional hsmall hlarge
  · simp [text, pointText, exponentText, Binary64.zeros, hne]
  · simp [text, pointText, exponentText, Binary64.zeros]
  · have hdrop : (Nat.toDigits 10 d.digits).drop
        ((d.exponent + (Nat.toDigits 10 d.digits).length - 1).toNat + 1) ≠ [] := by
      rw [ne_eq, List.drop_eq_nil_iff]
      exact hlarge
    simp only [text, pointText, if_neg hdrop, exponentText, List.splitAt_eq, String.toList_append,
      String.toList_ofList, hpoint, List.append_nil, List.append_assoc, List.singleton_append]
  · cases hds : Nat.toDigits 10 d.digits with
    | nil => exact absurd hds hne
    | cons c cs =>
      cases cs with
      | nil => simp [text, pointText, exponentText]
      | cons c' cs => simp [text, pointText, exponentText, hpoint]

/-- The digits of the parts are those of the decimal, but for zeros that a positional number has
behind them. -/
theorem digits_and_scale_ofDecimal :
    (DecimalParts.ofDecimal layout d).digits = d.digits ∧
        (DecimalParts.ofDecimal layout d).scale = d.exponent ∨
      ∃ n : Nat, n ≤ layout.positionalLimit.toNat ∧ d.exponent = n ∧
        (DecimalParts.ofDecimal layout d).digits = d.digits * 10 ^ (n + 1) ∧
        (DecimalParts.ofDecimal layout d).scale = -1 := by
  have hnumber : ofDigits (Nat.toDigits 10 d.digits) = d.digits := ofDigits_toDigits _
  have hlength : 0 < (Nat.toDigits 10 d.digits).length :=
    List.length_pos_of_ne_nil Nat.toDigits_ne_nil
  unfold DecimalParts.ofDecimal
  dsimp only
  split_ifs with hpositional hsmall hlarge
  · refine .inl ⟨?_, ?_⟩
    · rw [digits, show ['0'] = List.replicate 1 '0' from rfl, ← List.append_assoc,
        List.replicate_append_replicate, ofDigits_zeros_append]
    · simp [scale]
      omega
  · refine .inr ⟨d.exponent.toNat, by omega, by omega, ?_, ?_⟩
    · rw [digits, List.append_assoc, show ['0'] = List.replicate 1 '0' from rfl,
        List.replicate_append_replicate, ofDigits_append_zeros, hnumber]
      congr 2
      omega
    · simp [scale]
  · refine .inl ⟨?_, ?_⟩
    · rw [digits, List.take_append_drop, hnumber]
    · simp [scale]
      omega
  · refine .inl ⟨?_, ?_⟩
    · rw [digits, List.take_append_drop, hnumber]
    · simp [scale]
      omega

/-- The parts stand for the decimal. -/
theorem value_ofDecimal :
    ((DecimalParts.ofDecimal layout d).digits : ℚ) * 10 ^ (DecimalParts.ofDecimal layout d).scale =
      d.value := by
  obtain ⟨hdigits, hscale⟩ | ⟨n, -, hn, hdigits, hscale⟩ := digits_and_scale_ofDecimal layout d
  · rw [hdigits, hscale, Decimal.value]
  · rw [hdigits, hscale, Decimal.value, hn, zpow_natCast, zpow_neg_one]
    push_cast
    ring

/-- The parts have no more zeros than positional numbers have places. -/
theorem digits_ofDecimal_le :
    (DecimalParts.ofDecimal layout d).digits ≤
      d.digits * 10 ^ (layout.positionalLimit.toNat + 1) := by
  obtain ⟨hdigits, -⟩ | ⟨n, hn, -, hdigits, -⟩ := digits_and_scale_ofDecimal layout d
  · rw [hdigits]
    exact Nat.le_mul_of_pos_right _ (by positivity)
  · rw [hdigits]
    gcongr
    norm_num

end Writing

/-! ### Reading a number -/

/-- The characters of a written number, names apart. -/
def isNumberChar (c : Char) : Bool := c.isDigit || c == '.' || c == 'e' || c == '+' || c == '-'

/-- A digit of ASCII is one of ten characters. -/
theorem exists_of_isDigit {c : Char} (h : c.isDigit) : ∃ n < 10, c = Char.ofNat (48 + n) := by
  have hlt := toNat_sub_lt_of_isDigit h
  have hle : 48 ≤ c.toNat := by
    simp only [Char.isDigit, ge_iff_le, Bool.and_eq_true, decide_eq_true_eq,
      UInt32.le_iff_toNat_le] at h
    exact h.1
  refine ⟨c.toNat - 48, hlt, ?_⟩
  rw [show 48 + (c.toNat - 48) = c.toNat by omega, Char.ofNat_toNat]

/-- No character of a number is blank, and none is replaced when it is read. -/
theorem isBlank_and_asciiDigit_of_isNumberChar {c : Char} (h : isNumberChar c) :
    Text.isBlank c = false ∧ asciiDigit c = c := by
  have all : ∀ n < 10, Text.isBlank (Char.ofNat (48 + n)) = false ∧
      asciiDigit (Char.ofNat (48 + n)) = Char.ofNat (48 + n) := by decide +kernel
  simp only [isNumberChar, Bool.or_eq_true, beq_iff_eq] at h
  rcases h with (((h | rfl) | rfl) | rfl) | rfl
  · obtain ⟨n, hn, rfl⟩ := exists_of_isDigit h
    exact all n hn
  all_goals decide +kernel

/-- A text without blanks keeps all its characters. -/
theorem trimBlank_of_forall {cs : List Char} (h : ∀ c ∈ cs, Text.isBlank c = false) :
    Text.trimBlank cs = cs := by
  have hdrop : ∀ ds : List Char, (∀ c ∈ ds, Text.isBlank c = false) →
      ds.dropWhile Text.isBlank = ds := by
    intro ds hds
    cases ds with
    | nil => rfl
    | cons c cs => simp [hds c List.mem_cons_self]
  rw [Text.trimBlank, Text.trim, hdrop cs h,
    hdrop cs.reverse fun c hc => h c (List.mem_reverse.mp hc), List.reverse_reverse]

/-- The characters of the parts of a number. -/
theorem isNumberChar_of_mem_text (width : Nat) {p : DecimalParts} (hp : p.IsMarked) :
    ∀ c ∈ p.text width, isNumberChar c := by
  have hdigit : ∀ c : Char, c.isDigit → isNumberChar c := fun c hc => by simp [isNumberChar, hc]
  intro c hc
  simp only [text, List.mem_append] at hc
  rcases hc with hc | hc | hc
  · exact hdigit c (hp.isDigit_whole c hc)
  · unfold pointText at hc
    split at hc
    · cases hc
    · rcases List.mem_cons.mp hc with rfl | hc
      · rfl
      · exact hdigit c (hp.isDigit_fraction c hc)
  · unfold exponentText at hc
    split at hc
    · cases hc
    · rw [toList_writeExponent, List.mem_cons, List.mem_cons] at hc
      rcases hc with rfl | rfl | hc
      · rfl
      · split <;> rfl
      · exact hdigit c (isDigit_of_mem_zeros_append c hc)

/-- The parts of a number with a sign or none are read as the number. -/
theorem readFloat?_text (negative : Bool) (width : Nat) {p : DecimalParts} (hp : p.IsMarked) :
    readFloat? ((if negative then ['-'] else []) ++ p.text width) =
      some (Binary64.ofDecimal negative p.digits p.scale) := by
  have hchars : ∀ c ∈ (if negative then ['-'] else []) ++ p.text width, isNumberChar c := by
    refine List.forall_mem_append.mpr ⟨?_, isNumberChar_of_mem_text width hp⟩
    cases negative <;> simp [isNumberChar]
  have hclean : (Text.trimBlank ((if negative then ['-'] else []) ++ p.text width)).map asciiDigit =
      (if negative then ['-'] else []) ++ p.text width := by
    rw [trimBlank_of_forall fun c hc => (isBlank_and_asciiDigit_of_isNumberChar (hchars c hc)).1]
    exact (List.map_congr_left fun c hc =>
      (isBlank_and_asciiDigit_of_isNumberChar (hchars c hc)).2).trans (List.map_id _)
  obtain ⟨c, cs, hcs⟩ : ∃ c cs, p.whole = c :: cs := List.exists_cons_of_ne_nil hp.whole_ne_nil
  have hc : c.isDigit := hp.isDigit_whole c (hcs ▸ List.mem_cons_self)
  have htext : ∃ rest, p.text width = c :: rest := ⟨_, by rw [text, hcs]; rfl⟩
  obtain ⟨rest, hrest⟩ := htext
  obtain ⟨n, hn, rfl⟩ := exists_of_isDigit hc
  have hsplit : splitSign ((if negative then ['-'] else []) ++ p.text width) =
      (negative, p.text width) := by
    cases negative with
    | true => rfl
    | false =>
      rw [hrest]
      have hsign : Char.ofNat (48 + n) ≠ '-' ∧ Char.ofNat (48 + n) ≠ '+' := by
        have all : ∀ n < 10, Char.ofNat (48 + n) ≠ '-' ∧ Char.ofNat (48 + n) ≠ '+' := by decide
        exact all n hn
      simp [splitSign, hsign.1, hsign.2]
  -- the first character is a digit, so the text is none of the names
  have hname : ∀ d ds, d.isDigit = false →
      String.ofList ((p.text width).map Char.toLower) ≠ String.ofList (d :: ds) := by
    rintro d ds hd hname
    have all : ∀ n < 10, (Char.ofNat (48 + n)).toLower.isDigit := by decide
    rw [String.ofList_inj, hrest, List.map_cons, List.cons.injEq] at hname
    rw [← hname.1, all n hn] at hd
    cases hd
  unfold readFloat?
  simp only [hclean, hsplit]
  rw [if_neg, if_neg, readDecimal?_text negative width hp]
  · exact hname 'n' ['a', 'n'] rfl
  · rintro (h | h)
    · exact hname 'i' ['n', 'f'] rfl h
    · exact hname 'i' ['n', 'f', 'i', 'n', 'i', 't', 'y'] rfl h

/-! ### The text of a double -/

/-- A finite double is written in parts that are read as it, behind a sign if it is negative. -/
theorem exists_parts_write {negative : Bool} {m : Nat} {e : Int}
    (hx : (Binary64.finite negative m e).IsDouble) :
    ∃ p : DecimalParts, p.IsMarked ∧
      ((Binary64.finite negative m e).write displayLayout).toList =
        (if negative then ['-'] else []) ++ p.text 2 ∧
      Binary64.ofDecimal negative p.digits p.scale = .finite negative m e := by
  have hsign : (if negative then "-" else "").toList = if negative then ['-'] else [] := by
    cases negative <;> rfl
  by_cases hm : m = 0
  · subst hm
    obtain rfl : e = Binary64.leastExponent := hx.2.2.2.resolve_left (by norm_num)
    refine ⟨⟨['0'], ['0'], none⟩, ⟨by simp, by simp, by simp, by simp⟩, ?_, rfl⟩
    rw [Binary64.write, if_pos rfl, String.toList_append, hsign]
    rfl
  · have hpos : 0 < m := Nat.pos_of_ne_zero hm
    obtain ⟨hnear, hdigits⟩ := Binary64.nearest_shortest hpos hx
    refine ⟨.ofDecimal displayLayout (Binary64.shortest m e), isMarked_ofDecimal _ _, ?_, ?_⟩
    · rw [Binary64.write, if_neg hm, String.toList_append, hsign, toList_writeDecimal]
      rfl
    · have hbound :
          (DecimalParts.ofDecimal displayLayout (Binary64.shortest m e)).digits < 2 ^ 200 :=
        calc _ ≤ (Binary64.shortest m e).digits * 10 ^ 17 := digits_ofDecimal_le displayLayout _
          _ ≤ 10 ^ 17 * 10 ^ 17 := Nat.mul_le_mul_right _ hdigits
          _ < 2 ^ 200 := by norm_num
      rw [Binary64.ofDecimal_eq_nearest _ hbound, value_ofDecimal]
      cases negative with
      | false => exact hnear
      | true => rw [Binary64.nearest_true, hnear]; rfl

/-- Every double is read back from its text. -/
theorem readFloat?_write {x : Binary64} (hx : x.IsDouble) :
    readFloat? (x.write displayLayout).toList = some x := by
  cases x with
  | nan => decide +kernel
  | infinite negative => cases negative <;> decide +kernel
  | finite negative m e =>
    obtain ⟨p, hp, htext, hvalue⟩ := exists_parts_write hx
    rw [htext, readFloat?_text negative 2 hp, hvalue]

/-- No two doubles have the same text. -/
theorem write_injective {x y : Binary64} (hx : x.IsDouble) (hy : y.IsDouble)
    (h : x.write displayLayout = y.write displayLayout) : x = y :=
  Option.some.inj (by rw [← readFloat?_write hx, h, readFloat?_write hy])

end Numeral

end FormPublisher
