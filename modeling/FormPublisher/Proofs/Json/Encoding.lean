import FormPublisher.Json.Encoding
import FormPublisher.Proofs.Json.Lexing
import FormPublisher.Proofs.Text.Utf8

/-!
# JSON in UTF-8

A JSON text that comes as bytes is taken to be in UTF-8 unless its first bytes speak against it.  So
the bytes of a text are read as the text is (`readBytes_utf8Bytes`), if it does not begin with a byte
order mark and there is no zero character among its first two.

With a zero character there the bytes may be taken for another text, in an encoding of wider units.
The text itself is no JSON then (`read_of_zero`): a zero character stands in no word, and text
between quotation marks holds none as it is.
-/

namespace FormPublisher.Json

/-! ### Detecting the encoding -/

/-- Without a zero among the first two bytes there is no sign of wider units. -/
theorem Encoding.ofZeros_eq_utf8 {bytes : List UInt8} (hzero : 0 ∉ bytes.take 2) :
    ofZeros bytes = .utf8 := by
  unfold ofZeros
  split
  · rename_i a b c d rest
    obtain ⟨ha, hb⟩ : a ≠ 0 ∧ b ≠ 0 := by simpa [eq_comm] using hzero
    rw [if_neg ha, if_neg hb]
  · rename_i a b
    obtain ⟨ha, hb⟩ : a ≠ 0 ∧ b ≠ 0 := by simpa [eq_comm] using hzero
    rw [if_neg ha, if_neg hb]
  · rfl

/-- Bytes that begin with no zero bytes and no byte order mark are taken to be in UTF-8. -/
theorem Encoding.detect_eq_utf8 {bytes : List UInt8} (hzero : 0 ∉ bytes.take 2)
    (hfirst : ∀ a, bytes.head? = some a → a.toNat < 248)
    (hmark : ¬ [0xEF, 0xBB, 0xBF] <+: bytes) : detect bytes = (.utf8, bytes) := by
  unfold detect
  -- the marks in the order in which they are looked for: only that of UTF-8 begins with a byte
  -- that a text can begin with
  split
  · exact absurd List.mem_cons_self hzero
  · exact absurd (hfirst _ rfl) (by decide)
  · exact absurd (hfirst _ rfl) (by decide)
  · exact absurd (hfirst _ rfl) (by decide)
  · exact absurd (List.prefix_append [0xEF, 0xBB, 0xBF] _) hmark
  · rw [ofZeros_eq_utf8 hzero]

/-- The bytes of a text are read as the text is. -/
theorem readBytes_utf8Bytes {s : String} (hmark : s.toList.head? ≠ some '\uFEFF')
    (hzero : '\x00' ∉ s.toList.take 2) : readBytes (utf8Bytes s) = read s := by
  have hdetect : Encoding.detect (utf8Bytes s) = (.utf8, utf8Bytes s) := by
    apply Encoding.detect_eq_utf8
    · exact fun h => hzero (mem_take_of_mem_take_utf8Bytes h)
    · exact fun a h => toNat_lt_of_head?_utf8Bytes h
    · exact fun h => hmark (head?_of_mark_prefix_utf8Bytes h)
  have hdecode : Encoding.utf8.decode? (utf8Bytes s) = some s := fromUTF8?_utf8Bytes s
  rw [readBytes, hdetect]
  dsimp only
  rw [hdecode]

/-! ### Zero characters -/

theorem readNumber_of_zero (negative : Bool) (more : List Char) :
    readNumber negative ('\x00' :: more) = .error .malformed := by
  have hwhole : ('\x00' :: more).takeWhile Char.isDigit = [] := rfl
  have hexcess : excessDigits? ('\x00' :: more) = none := by
    unfold excessDigits?
    rw [hwhole]
    rfl
  have hread : readNumber? negative ('\x00' :: more) = none := rfl
  rw [readNumber, hexcess]
  dsimp only
  rw [hread]

/-- A number of one digit ends at a zero character, and no number goes on like this. -/
theorem readNumber_cons_of_zero (negative : Bool) (c : Char) (more : List Char) :
    readNumber negative (c :: '\x00' :: more) = .error .malformed := by
  have hwhole : ((c :: '\x00' :: more).takeWhile Char.isDigit).length ≤ 1 := by
    rw [List.takeWhile_cons]
    split
    · exact Nat.le_refl 1
    · exact Nat.zero_le 1
  have hexcess : excessDigits? (c :: '\x00' :: more) = none := by
    have hcount : ¬ Numeral.digitLimit < ((c :: '\x00' :: more).takeWhile Char.isDigit).length := by
      have hlimit : 1 ≤ Numeral.digitLimit := by decide
      omega
    unfold excessDigits?
    simp only [hcount, decide_false, Bool.false_and, Bool.false_eq_true, if_false]
  have hread : readNumber? negative (c :: '\x00' :: more) = none := by
    unfold readNumber?
    by_cases hc : c.isDigit = true
    · have hexponent : Numeral.readExponent? ('\x00' :: more) = none := rfl
      simp [hc, hexponent]
    · simp [hc]
  rw [readNumber, hexcess]
  dsimp only
  rw [hread]

/-- No word begins with a zero character. -/
theorem readWord_of_zero (more : List Char) : readWord ('\x00' :: more) = .error .malformed :=
  readNumber_of_zero false more

/-- No word has a zero character in the second place. -/
theorem readWord_cons_of_zero (c : Char) (more : List Char) :
    readWord (c :: '\x00' :: more) = .error .malformed := by
  have hname : ∀ name : List Char, name[1]? ≠ some '\x00' → c :: '\x00' :: more ≠ name := by
    rintro name hsecond rfl
    exact hsecond rfl
  unfold readWord
  rw [if_neg (hname "null".toList (by decide)), if_neg (hname "true".toList (by decide)),
    if_neg (hname "false".toList (by decide)), if_neg (hname "NaN".toList (by decide)),
    if_neg (hname "Infinity".toList (by decide)), if_neg (hname "-Infinity".toList (by decide))]
  split
  · rename_i rest hsign
    obtain ⟨-, rfl⟩ := List.cons.inj hsign
    exact readNumber_of_zero true more
  · exact readNumber_cons_of_zero false c more

/-- What is wrong with a character comes before all that follows it. -/
theorem lexFrom_cons_of_error {mode : Mode} {c : Char} {flaw : Flaw}
    (h : advance mode c = .error flaw) (cs : List Char) :
    lexFrom mode (c :: cs) = { tokens := [], flaw := some flaw } := by
  rw [lexFrom, h]

/-- A word that can only be continued to what is no word makes the text no JSON text. -/
theorem lexFrom_word_of_malformed {read : List Char}
    (h : ∀ more, wordToken (more ++ read) = .error .malformed) (cs : List Char) :
    lexFrom (.word read) cs = { tokens := [], flaw := some .malformed } := by
  induction cs generalizing read with
  | nil =>
    have hread : wordToken read = .error .malformed := h []
    rw [lexFrom, hread]
  | cons c cs ih =>
    by_cases hends : endsWord c = true
    · have hadvance : advance (.word read) c = .error .malformed := by
        have hread : wordToken read = .error .malformed := h []
        rw [advance, if_pos hends, hread]
        rfl
      exact lexFrom_cons_of_error hadvance cs
    · have hadvance : advance (.word read) c = .ok (.word (c :: read), []) := by
        rw [advance, if_neg hends]
      have hlonger : ∀ more, wordToken (more ++ c :: read) = .error .malformed := by
        intro more
        rw [List.append_cons]
        exact h (more ++ [c])
      rw [lexFrom_cons hadvance, ih hlonger, Lexed.after_nil]

/-- A zero character between tokens begins a word that is none. -/
theorem lexFrom_between_zero (cs : List Char) :
    lexFrom .between ('\x00' :: cs) = { tokens := [], flaw := some .malformed } := by
  have hstart : start '\x00' = (.word ['\x00'], []) := rfl
  rw [lexFrom_between_cons, hstart, Lexed.after_nil]
  apply lexFrom_word_of_malformed
  intro more
  rw [wordToken, List.reverse_append, List.reverse_singleton, List.singleton_append,
    readWord_of_zero]
  rfl

/-- Behind one character a zero character is just as wrong. -/
theorem exists_lex_cons_zero (c : Char) (cs : List Char) :
    ∃ ts, ts.length ≤ 1 ∧ lex (c :: '\x00' :: cs) = { tokens := ts, flaw := some .malformed } := by
  unfold lex
  rw [lexFrom_between_cons]
  by_cases hspace : isSpace c = true
  · have hstart : start c = (.between, []) := by rw [start, if_pos hspace]
    rw [hstart, lexFrom_between_zero]
    exact ⟨[], Nat.zero_le 1, rfl⟩
  by_cases hquote : c = '"'
  · have hstart : start c = (.text [], []) := by rw [start, if_neg hspace, if_pos hquote]
    have hadvance : advance (.text []) '\x00' = .error .malformed := rfl
    rw [hstart, lexFrom_cons_of_error hadvance]
    exact ⟨[], Nat.zero_le 1, rfl⟩
  cases hpunctuation : punctuation? c with
  | some t =>
    have hstart : start c = (.between, [t]) := by
      rw [start, if_neg hspace, if_neg hquote, hpunctuation]
    rw [hstart, lexFrom_between_zero]
    exact ⟨[t], Nat.le_refl 1, rfl⟩
  | none =>
    have hstart : start c = (.word [c], []) := by
      rw [start, if_neg hspace, if_neg hquote, hpunctuation]
    have hadvance : advance (.word [c]) '\x00' = .ok (.word ['\x00', c], []) := rfl
    -- a word is held in reverse, so more of it stands in front
    have hword : ∀ more, wordToken (more ++ ['\x00', c]) = .error .malformed := by
      intro more
      have hreverse : (more ++ ['\x00', c]).reverse = c :: '\x00' :: more.reverse :=
        List.reverse_append
      rw [wordToken, hreverse, readWord_cons_of_zero]
      rfl
    rw [hstart, lexFrom_cons hadvance, lexFrom_word_of_malformed hword]
    exact ⟨[], Nat.zero_le 1, rfl⟩

/-- A text with a zero character among its first two is no JSON text. -/
theorem read_of_zero {s : String} (h : '\x00' ∈ s.toList.take 2) : read s = .error .malformed := by
  have hlex : ∃ ts, ts.length ≤ 1 ∧ lex s.toList = { tokens := ts, flaw := some .malformed } := by
    generalize s.toList = cs at h
    cases cs with
    | nil => cases h
    | cons c cs =>
      rw [List.take_succ_cons, List.take_one, List.mem_cons, Option.mem_toList] at h
      rcases h with rfl | hsecond
      · exact ⟨[], Nat.zero_le 1, lexFrom_between_zero cs⟩
      · obtain ⟨rest, rfl⟩ := List.head?_eq_some_iff.mp hsecond
        exact exists_lex_cons_zero c rest
  obtain ⟨ts, hlength, hlex⟩ := hlex
  rw [read, readWithin, hlex]
  -- a single token is taken or not, and in either case the text ends badly
  rcases ts with _ | ⟨t, _ | ⟨t', ts⟩⟩
  · rfl
  · cases t <;> rfl
  · simp at hlength

end FormPublisher.Json
