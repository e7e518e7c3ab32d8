import FormPublisher.Proofs.Json.Reader

/-!
# Tokens that are cut as they were spelled

A spelled token is cut off the front of a text again, whatever follows it (`lexFrom_spell`).  A word,
that is a number or a name, needs an end: white space, punctuation or a quotation mark behind it, or
nothing at all.  In a row in which no two atoms meet every word has one, so the row is cut as it was
spelled in every layout that puts only white space between tokens (`lexFrom_spellAll`).

This holds of atoms that are neither decimals nor torn texts (`Scalar.isPlain`).  A text is read
back unit by unit: an escape gives the units of its character, and pairs of surrogates are joined
when the text is closed.  Of integers only those that are not too long are read back; a text that is
a longer one is an error (`read_replicate_one`).
-/

namespace FormPublisher

/-- Whether a scalar is neither a decimal nor a torn text. -/
def Scalar.isPlain : Scalar → Bool
  | .float _ | .torn _ => false
  | _ => true

namespace Json

/-! ### Words -/

/-- The digits of a number that is not too long are read as this number. -/
theorem readNumber_toDigits (negative : Bool) {n : Nat} (h : n < Numeral.writableBound) :
    readNumber negative (Nat.toDigits 10 n) = .ok (.int (if negative then -(n : Int) else n)) := by
  have hdigits := Numeral.isDigit_of_mem_toDigits (n := n)
  have hwhole : (Nat.toDigits 10 n).takeWhile Char.isDigit = Nat.toDigits 10 n :=
    List.takeWhile_eq_self_iff.mpr hdigits
  have hrest : (Nat.toDigits 10 n).dropWhile Char.isDigit = [] :=
    List.dropWhile_eq_nil_iff.mpr hdigits
  have hexcess : excessDigits? (Nat.toDigits 10 n) = none := by
    unfold excessDigits?
    rw [hwhole]
    simp [Nat.not_lt.mpr (Numeral.length_toDigits_le h)]
  have hempty : (Nat.toDigits 10 n).isEmpty = false :=
    List.isEmpty_eq_false_iff.mpr Nat.toDigits_ne_nil
  -- A leading zero stands alone.
  have hzero : ((Nat.toDigits 10 n).head? == some '0' && (Nat.toDigits 10 n).length ≠ 1) = false := by
    by_cases hn : n = 0
    · subst hn
      decide
    · rw [beq_eq_false_iff_ne.mpr (Numeral.head?_toDigits_ne hn), Bool.false_and]
  have hread : readNumber? negative (Nat.toDigits 10 n) =
      some (.int (if negative then -(n : Int) else n)) := by
    unfold readNumber?
    simp only [hwhole, hrest, hempty, hzero, Numeral.ofDigits_toDigits, Bool.or_self,
      Bool.false_eq_true, if_false]
  rw [readNumber, hexcess]
  dsimp only
  rw [hread]

/-- A word that begins with a digit is a number. -/
theorem readWord_of_isDigit {c : Char} (hc : c.isDigit) (cs : List Char) :
    readWord (c :: cs) = readNumber false (c :: cs) := by
  have hne : ∀ d : Char, d.isDigit = false → c ≠ d := by
    rintro d hd rfl
    rw [hc] at hd
    cases hd
  have hn := hne 'n' rfl
  have ht := hne 't' rfl
  have hf := hne 'f' rfl
  have hN := hne 'N' rfl
  have hI := hne 'I' rfl
  have hminus := hne '-' rfl
  unfold readWord
  simp [hn, ht, hf, hN, hI, hminus]

/-- A sign before a digit makes the number a negative one. -/
theorem readWord_minus_of_isDigit {c : Char} (hc : c.isDigit) (cs : List Char) :
    readWord ('-' :: c :: cs) = readNumber true (c :: cs) := by
  have hI : c ≠ 'I' := by
    rintro rfl
    cases hc
  unfold readWord
  simp [hI]

/-- An integer that is not too long is read back. -/
theorem readWord_toString {n : Int} (h : Numeral.isWritable n) :
    readWord (toString n).toList = .ok (.int n) := by
  have hbound : n.natAbs < Numeral.writableBound := of_decide_eq_true h
  obtain ⟨c, cs, hcs⟩ : ∃ c cs, Nat.toDigits 10 n.natAbs = c :: cs :=
    List.exists_cons_of_ne_nil Nat.toDigits_ne_nil
  have hc : c.isDigit := Numeral.isDigit_of_mem_toDigits c (hcs ▸ List.mem_cons_self)
  have hread := fun negative => readNumber_toDigits negative hbound
  rw [hcs] at hread
  cases n with
  | ofNat m =>
    rw [Numeral.toList_toString_ofNat, show m = (Int.ofNat m).natAbs from rfl, hcs,
      readWord_of_isDigit hc, hread]
    rfl
  | negSucc m =>
    rw [Numeral.toList_toString_negSucc, show m + 1 = (Int.negSucc m).natAbs from rfl, hcs,
      readWord_minus_of_isDigit hc, hread]
    rfl

/-! ### Modes -/

theorem Lexed.after_after (as bs : List Token) (l : Lexed) :
    (l.after bs).after as = l.after (as ++ bs) := by
  simp only [after, List.append_assoc]

@[simp] theorem Lexed.after_nil (l : Lexed) : l.after [] = l := rfl

theorem lexFrom_cons {mode next : Mode} {c : Char} {ts : List Token}
    (h : advance mode c = .ok (next, ts)) (cs : List Char) :
    lexFrom mode (c :: cs) = (lexFrom next cs).after ts := by
  rw [lexFrom, h]

/-- Outside words and texts a character does the same wherever it stands. -/
theorem lexFrom_between_cons (c : Char) (cs : List Char) :
    lexFrom .between (c :: cs) = (lexFrom (start c).1 cs).after (start c).2 :=
  lexFrom_cons rfl cs

/-- White space is passed over. -/
theorem lexFrom_space_append {gap : List Char} (h : ∀ c ∈ gap, isSpace c) (cs : List Char) :
    lexFrom .between (gap ++ cs) = lexFrom .between cs := by
  induction gap with
  | nil => rfl
  | cons c gap ih =>
    obtain ⟨hc, hgap⟩ := List.forall_mem_cons.mp h
    have hstart : start c = (.between, []) := by
      rw [start, if_pos hc]
    rw [List.cons_append, lexFrom_between_cons, hstart, ih hgap, Lexed.after_nil]

/-! ### Words between tokens -/

/-- A word goes on to its end. -/
theorem lexFrom_word_append {word : List Char} (h : ∀ c ∈ word, endsWord c = false)
    (read cs : List Char) :
    lexFrom (.word read) (word ++ cs) = lexFrom (.word (word.reverse ++ read)) cs := by
  induction word generalizing read with
  | nil => rfl
  | cons c word ih =>
    obtain ⟨hc, hword⟩ := List.forall_mem_cons.mp h
    have hadvance : advance (.word read) c = .ok (.word (c :: read), []) := by
      rw [advance, hc]
      rfl
    rw [List.cons_append, lexFrom_cons hadvance, ih hword, Lexed.after_nil, List.reverse_cons,
      List.append_assoc]
    rfl

/-- What ends a word is the same as after white space. -/
theorem lexFrom_word_of_ends {read : List Char} {t : Token} (ht : wordToken read = .ok t)
    {cs : List Char} (h : ∀ c ∈ cs.head?, endsWord c) :
    lexFrom (.word read) cs = (lexFrom .between cs).after [t] := by
  cases cs with
  | nil =>
    have hend : lexFrom (.word read) [] = { tokens := [t] } := by
      rw [lexFrom, ht]
    rw [hend]
    rfl
  | cons c cs =>
    have hc : endsWord c := h c rfl
    have hadvance : advance (.word read) c = .ok ((start c).1, t :: (start c).2) := by
      rw [advance, if_pos hc, ht]
      rfl
    rw [lexFrom_cons hadvance, lexFrom_between_cons, Lexed.after_after]
    rfl

/-- A word that denotes an atom is cut off as this atom. -/
theorem lexFrom_word {word : List Char} {s : Scalar} (hne : word ≠ [])
    (hword : ∀ c ∈ word, endsWord c = false) (hs : readWord word = .ok s) {cs : List Char}
    (h : ∀ c ∈ cs.head?, endsWord c) :
    lexFrom .between (word ++ cs) = (lexFrom .between cs).after [.atom s] := by
  obtain ⟨c, more, rfl⟩ := List.exists_cons_of_ne_nil hne
  obtain ⟨hc, hmore⟩ := List.forall_mem_cons.mp hword
  have hstart : start c = (.word [c], []) := by
    simp only [endsWord, Bool.or_eq_false_iff, decide_eq_false_iff_not,
      Option.isSome_eq_false_iff, Option.isNone_iff_eq_none] at hc
    obtain ⟨⟨hspace, hquote⟩, hpunctuation⟩ := hc
    simp [start, hspace, hquote, hpunctuation]
  have htoken : wordToken (more.reverse ++ [c]) = .ok (.atom s) := by
    rw [wordToken, ← List.reverse_cons, List.reverse_reverse, hs]
    rfl
  rw [List.cons_append, lexFrom_between_cons, hstart, Lexed.after_nil, lexFrom_word_append hmore,
    lexFrom_word_of_ends htoken h]

/-! ### Texts -/

/-- The digits of a code escape but the last are taken in one by one. -/
theorem lexFrom_code_append (read : List Nat) (cs : List Char) (width left code n : Nat) :
    lexFrom (.code read (width + left + 1) code) (Text.hexDigits width n ++ cs) =
      lexFrom (.code read (left + 1) (16 ^ width * code + n % 16 ^ width)) cs := by
  induction width generalizing left n cs with
  | zero => simp [Text.hexDigits, Nat.mod_one]
  | succ width ih =>
    -- The last digit comes after all others.
    have hdigit := Text.hexValue?_hexDigit (Nat.mod_lt n (by decide : 0 < 16))
    have hadvance : advance (.code read (left + 1 + 1) (16 ^ width * code + n / 16 % 16 ^ width))
        (Text.hexDigit (n % 16)) =
          .ok (.code read (left + 1) (16 * (16 ^ width * code + n / 16 % 16 ^ width) + n % 16),
            []) := by
      rw [advance, hdigit]
      simp
    have hcode : 16 * (16 ^ width * code + n / 16 % 16 ^ width) + n % 16 =
        16 ^ (width + 1) * code + n % 16 ^ (width + 1) := by
      rw [pow_succ', Nat.mod_mul]
      ring
    rw [Text.hexDigits, List.append_assoc, List.singleton_append,
      show width + 1 + left + 1 = width + (left + 1) + 1 by omega, ih, lexFrom_cons hadvance,
      Lexed.after_nil, hcode]

/-- A code escape stands for its unit. -/
theorem lexFrom_escape_append (read : List Nat) {u : Nat} (hu : u < 65536) (cs : List Char) :
    lexFrom (.text read) ('\\' :: 'u' :: Text.hexDigits 4 u ++ cs) =
      lexFrom (.text (u :: read)) cs := by
  have hopen : advance (.text read) '\\' = .ok (.escape read, []) := rfl
  have hcode : advance (.escape read) 'u' = .ok (.code read 4 0, []) := rfl
  have hdigit := Text.hexValue?_hexDigit (Nat.mod_lt u (by decide : 0 < 16))
  have hlast : advance (.code read 1 (u / 16)) (Text.hexDigit (u % 16)) =
      .ok (.text (u :: read), []) := by
    rw [advance, hdigit]
    simp [Nat.div_add_mod]
  have hsmall : u / 16 < 16 ^ 3 := by omega
  have hthree : lexFrom (.code read 4 0)
      (Text.hexDigits 3 (u / 16) ++ Text.hexDigit (u % 16) :: cs) =
        lexFrom (.code read 1 (u / 16)) (Text.hexDigit (u % 16) :: cs) := by
    have h := lexFrom_code_append read (Text.hexDigit (u % 16) :: cs) 3 0 0 (u / 16)
    rw [Nat.mul_zero, Nat.mod_eq_of_lt hsmall, Nat.zero_add (u / 16)] at h
    exact h
  rw [List.cons_append, List.cons_append, lexFrom_cons hopen, Lexed.after_nil, lexFrom_cons hcode,
    Lexed.after_nil, Text.hexDigits, List.append_assoc, List.singleton_append, hthree,
    lexFrom_cons hlast, Lexed.after_nil]

theorem lexFrom_escapes_append (read : List Nat) {us : List Nat} (hus : ∀ u ∈ us, u < 65536)
    (cs : List Char) :
    lexFrom (.text read) (us.flatMap (fun u => '\\' :: 'u' :: Text.hexDigits 4 u) ++ cs) =
      lexFrom (.text (us.reverse ++ read)) cs := by
  induction us generalizing read with
  | nil => rfl
  | cons u us ih =>
    obtain ⟨hu, hus⟩ := List.forall_mem_cons.mp hus
    rw [List.flatMap_cons, List.append_assoc, lexFrom_escape_append read hu, ih _ hus,
      List.reverse_cons, List.append_assoc, List.singleton_append]

theorem lt_of_mem_units {c : Char} : ∀ u ∈ Text.units c, u < 65536 := by
  have hmax : c.toNat < 0x110000 := by
    have hvalid := c.valid
    simp only [UInt32.isValidChar, Nat.isValidChar] at hvalid
    have hval : c.val.toNat = c.toNat := rfl
    omega
  unfold Text.units
  dsimp only
  split
  · simpa
  · simp only [List.mem_cons, List.not_mem_nil, or_false, forall_eq_or_imp, forall_eq]
    omega

/-- A character with a letter of its own is read back from this letter. -/
theorem unescape?_of_shortEscape? {c e : Char} (h : shortEscape? c = some e) :
    e ≠ 'u' ∧ unescape? e = some c.toNat ∧ Text.units c = [c.toNat] := by
  have hunits : c.toNat < 128 → Text.units c = [c.toNat] := by
    intro hc
    have hlow : c.toNat < 0x10000 := by omega
    simp [Text.units, hlow]
  unfold shortEscape? at h
  split_ifs at h with hquote hbackslash hnewline hreturn htab hbackspace hfeed
  all_goals obtain rfl := Option.some.inj h
  · subst hquote
    exact ⟨by decide, by decide, hunits (by decide)⟩
  · subst hbackslash
    exact ⟨by decide, by decide, hunits (by decide)⟩
  · subst hnewline
    exact ⟨by decide, by decide, hunits (by decide)⟩
  · subst hreturn
    exact ⟨by decide, by decide, hunits (by decide)⟩
  · subst htab
    exact ⟨by decide, by decide, hunits (by decide)⟩
  · exact ⟨by decide, by rw [hbackspace]; decide, hunits (by omega)⟩
  · exact ⟨by decide, by rw [hfeed]; decide, hunits (by omega)⟩

/-- A spelled character is read as its units. -/
theorem lexFrom_spellChar_append (read : List Nat) (c : Char) (cs : List Char) :
    lexFrom (.text read) (spellChar c ++ cs) =
      lexFrom (.text ((Text.units c).reverse ++ read)) cs := by
  unfold spellChar
  cases hshort : shortEscape? c with
  | some e =>
    obtain ⟨hu, hunescape, hunits⟩ := unescape?_of_shortEscape? hshort
    have hopen : advance (.text read) '\\' = .ok (.escape read, []) := rfl
    have hletter : advance (.escape read) e = .ok (.text (c.toNat :: read), []) := by
      rw [advance, if_neg hu, hunescape]
    rw [hunits]
    dsimp only
    rw [List.cons_append, List.cons_append, lexFrom_cons hopen, Lexed.after_nil,
      lexFrom_cons hletter, Lexed.after_nil]
    rfl
  | none =>
    dsimp only
    split
    · -- A character that stands for itself is neither a quotation mark nor a backslash.
      rename_i hrange
      have hquote : c ≠ '"' := by
        rintro rfl
        cases hshort
      have hbackslash : c ≠ '\\' := by
        rintro rfl
        cases hshort
      have hplain : advance (.text read) c = .ok (.text (c.toNat :: read), []) := by
        rw [advance, if_neg hquote, if_neg hbackslash, if_neg (by omega)]
      have hlow : c.toNat < 0x10000 := by omega
      have hunits : Text.units c = [c.toNat] := by simp [Text.units, hlow]
      rw [hunits, List.singleton_append, lexFrom_cons hplain, Lexed.after_nil]
      rfl
    · exact lexFrom_escapes_append read lt_of_mem_units cs

theorem lexFrom_spellChars_append (read : List Nat) (text cs : List Char) :
    lexFrom (.text read) (text.flatMap spellChar ++ cs) =
      lexFrom (.text ((text.flatMap Text.units).reverse ++ read)) cs := by
  induction text generalizing read with
  | nil => rfl
  | cons c text ih =>
    rw [List.flatMap_cons, List.append_assoc, lexFrom_spellChar_append, ih, List.flatMap_cons,
      List.reverse_append, List.append_assoc]

/-- A text between quotation marks is read back. -/
theorem lexFrom_spellText (s : String) (cs : List Char) :
    lexFrom .between (spellText s ++ cs) = (lexFrom .between cs).after [.atom (.text s)] := by
  have hpoints : Text.joinPairs (s.toList.flatMap Text.units) = Text.points s :=
    Text.joinPairs_flatMap_units s.toList
  have hclose : advance (.text ((s.toList.flatMap Text.units).reverse)) '"' =
      .ok (.between, [.atom (.text s)]) := by
    rw [advance, if_pos rfl, List.reverse_reverse, hpoints, ofPoints_points]
  have hstart : start '"' = (.text [], []) := rfl
  rw [spellText, List.cons_append, lexFrom_between_cons, hstart, Lexed.after_nil, List.append_assoc,
    lexFrom_spellChars_append, List.append_nil, List.singleton_append, lexFrom_cons hclose]

/-! ### Tokens -/

namespace Token

/-- Whether a token is an atom. -/
def isAtom : Token → Bool
  | atom _ => true
  | _ => false

/-- Whether the atom of a token is neither a decimal nor a torn text. -/
def isPlain : Token → Bool
  | atom s => s.isPlain
  | _ => true

end Token

theorem endsWord_eq_false_of_isDigit {c : Char} (h : c.isDigit) : endsWord c = false := by
  have hne : ∀ d : Char, d.isDigit = false → c ≠ d := by
    rintro d hd rfl
    rw [h] at hd
    cases hd
  simp [endsWord, isSpace, punctuation?, hne]

theorem endsWord_eq_false_of_all {word : List Char} (h : word.all fun c => !endsWord c) :
    ∀ c ∈ word, endsWord c = false := fun c hc => by
  simpa using List.all_eq_true.mp h c hc

/-- A spelled integer is not empty and holds nothing that ends a word. -/
theorem toString_ne_nil_and_endsWord_eq_false (n : Int) :
    (toString n).toList ≠ [] ∧ ∀ c ∈ (toString n).toList, endsWord c = false := by
  have hdigits : ∀ m : Nat, ∀ c ∈ Nat.toDigits 10 m, endsWord c = false := fun m c hc =>
    endsWord_eq_false_of_isDigit (Numeral.isDigit_of_mem_toDigits c hc)
  cases n with
  | ofNat m =>
    rw [Numeral.toList_toString_ofNat]
    exact ⟨Nat.toDigits_ne_nil, hdigits m⟩
  | negSucc m =>
    rw [Numeral.toList_toString_negSucc]
    exact ⟨List.cons_ne_nil _ _, List.forall_mem_cons.mpr ⟨by decide, hdigits (m + 1)⟩⟩

/-- An atom is cut off again, if what follows it ends a word. -/
theorem lexFrom_spellScalar {s : Scalar} (hjson : s.isJson) (hplain : s.isPlain) {cs : List Char}
    (h : ∀ c ∈ cs.head?, endsWord c) :
    lexFrom .between (spellScalar s ++ cs) = (lexFrom .between cs).after [.atom s] := by
  cases s with
  | null => exact lexFrom_word (by decide) (endsWord_eq_false_of_all (by decide)) rfl h
  | bool b =>
    cases b <;> exact lexFrom_word (by decide) (endsWord_eq_false_of_all (by decide)) rfl h
  | int n =>
    obtain ⟨hne, hword⟩ := toString_ne_nil_and_endsWord_eq_false n
    exact lexFrom_word hne hword (readWord_toString hjson) h
  | text s => exact lexFrom_spellText s cs
  | float _ | torn _ => cases hplain
  | bytes _ | date _ | time _ => cases hjson

/-- A token is cut off again, if what follows an atom ends a word. -/
theorem lexFrom_spell {t : Token} (hjson : t.isJson) (hplain : t.isPlain) {cs : List Char}
    (h : t.isAtom → ∀ c ∈ cs.head?, endsWord c) :
    lexFrom .between (t.spell ++ cs) = (lexFrom .between cs).after [t] := by
  cases t with
  | atom s => exact lexFrom_spellScalar hjson hplain (h rfl)
  | _ => rfl

/-! ### Rows of tokens -/

/-- A layout that puts only white space between tokens. -/
def Layout.IsBlank (layout : Layout) : Prop :=
  ∀ depth t next, ∀ c ∈ layout.gap depth t next, isSpace c

theorem Layout.isBlank_compact : compact.IsBlank := by
  intro depth t next c hc
  cases t with
  | comma | colon =>
    obtain rfl := List.mem_singleton.mp hc
    rfl
  | _ => cases hc

/-- A row of tokens that can be spelled and in which no two atoms meet. -/
structure IsLegible (ts : List Token) : Prop where
  isJson : ∀ t ∈ ts, t.isJson
  isPlain : ∀ t ∈ ts, t.isPlain
  apart : ts.IsChain fun t next => ¬(t.isAtom ∧ next.isAtom)

/-- What is no atom begins with what ends a word. -/
theorem endsWord_of_head?_spell {t : Token} (h : t.isAtom = false) (cs : List Char) :
    ∀ c ∈ (t.spell ++ cs).head?, endsWord c := by
  cases t with
  | atom s => cases h
  | _ =>
    intro c hc
    obtain rfl := Option.some.inj hc
    rfl

theorem exists_spellAll_cons_eq (layout : Layout) (depth : Nat) (t : Token) (ts : List Token) :
    ∃ cs, spellAll layout depth (t :: ts) = t.spell ++ cs := by
  cases ts with
  | nil => exact ⟨[], by rw [spellAll, List.append_nil]⟩
  | cons next ts => exact ⟨_, by rw [spellAll, List.append_assoc]⟩

/-- A row of tokens is cut as it was spelled. -/
theorem lexFrom_spellAll {layout : Layout} (hlayout : layout.IsBlank) {ts : List Token}
    (h : IsLegible ts) (depth : Nat) :
    lexFrom .between (spellAll layout depth ts) = { tokens := ts } := by
  induction ts generalizing depth with
  | nil => rfl
  | cons t ts ih =>
    obtain ⟨hjson, htsjson⟩ := List.forall_mem_cons.mp h.isJson
    obtain ⟨hplain, htsplain⟩ := List.forall_mem_cons.mp h.isPlain
    cases ts with
    | nil =>
      have hone : lexFrom .between (t.spell ++ []) = (lexFrom .between []).after [t] :=
        lexFrom_spell hjson hplain fun _ c hc => by cases hc
      rw [List.append_nil] at hone
      rw [spellAll, hone]
      rfl
    | cons next ts =>
      obtain ⟨hapart, hrest⟩ := List.isChain_cons_cons.mp h.apart
      have hgap := hlayout (depthAfter depth t) t next
      obtain ⟨cs, hcs⟩ := exists_spellAll_cons_eq layout (depthAfter depth t) next ts
      -- Behind an atom there is white space, or a token that is none.
      have hends : t.isAtom → ∀ c ∈ (layout.gap (depthAfter depth t) t next ++
          spellAll layout (depthAfter depth t) (next :: ts)).head?, endsWord c := by
        intro hatom
        rw [hcs]
        cases hspaces : layout.gap (depthAfter depth t) t next with
        | nil => exact endsWord_of_head?_spell (by simpa [hatom] using hapart) cs
        | cons space spaces =>
          intro c hc
          obtain rfl := Option.some.inj hc
          rw [endsWord, hgap space (hspaces ▸ List.mem_cons_self)]
          rfl
      rw [spellAll, List.append_assoc, lexFrom_spell hjson hplain hends,
        lexFrom_space_append hgap, ih ⟨htsjson, htsplain, hrest⟩]
      rfl

/-! ### Integers that are too long -/

theorem readWord_replicate_one {n : Nat} (hn : Numeral.digitLimit < n) :
    readWord (List.replicate n '1') = .error (.literal (.digits n)) := by
  obtain ⟨m, rfl⟩ : ∃ m, n = m + 1 := ⟨n - 1, by omega⟩
  have hdigits :
      (List.replicate (m + 1) '1').takeWhile Char.isDigit = List.replicate (m + 1) '1' := by
    rw [List.takeWhile_eq_self_iff]
    intro c hc
    rw [List.eq_of_mem_replicate hc]
    rfl
  have hrest : (List.replicate (m + 1) '1').dropWhile Char.isDigit = [] := by
    rw [List.dropWhile_eq_nil_iff]
    intro c hc
    rw [List.eq_of_mem_replicate hc]
    rfl
  have hexcess : excessDigits? (List.replicate (m + 1) '1') = some (m + 1) := by
    unfold excessDigits?
    rw [hdigits, hrest, List.length_replicate]
    simp [startsDecimal, hn, List.replicate_succ]
  have hword : readWord (List.replicate (m + 1) '1') =
      readNumber false (List.replicate (m + 1) '1') := readWord_of_isDigit rfl _
  rw [hword, readNumber, hexcess]

/-- The digits of an integer are taken in one by one. -/
theorem lexFrom_replicate_one (m : Nat) (cs : List Char) :
    lexFrom (.word ['1']) (List.replicate m '1' ++ cs) =
      lexFrom (.word (List.replicate (m + 1) '1')) cs := by
  have hdigits : ∀ c ∈ List.replicate m '1', endsWord c = false := by
    intro c hc
    rw [List.eq_of_mem_replicate hc]
    rfl
  rw [lexFrom_word_append hdigits, List.reverse_replicate, ← List.replicate_succ']

/-- A text that is an integer with too many digits cannot be taken in. -/
theorem read_replicate_one {n : Nat} (hn : Numeral.digitLimit < n) :
    read (String.ofList (List.replicate n '1')) = .error (.literal (.digits n)) := by
  obtain ⟨m, rfl⟩ : ∃ m, n = m + 1 := ⟨n - 1, by omega⟩
  have hlex : lex (List.replicate (m + 1) '1') =
      { tokens := [], flaw := some (.literal (.digits (m + 1))) } := by
    have hstart : lex (List.replicate (m + 1) '1') =
        (lexFrom (.word ['1']) (List.replicate m '1' ++ [])).after [] := by
      rw [List.append_nil]
      rfl
    rw [hstart, lexFrom_replicate_one, lexFrom, wordToken, List.reverse_replicate,
      readWord_replicate_one hn]
    rfl
  rw [read, readWithin, String.toList_ofList, hlex]
  rfl

end Json

end FormPublisher
