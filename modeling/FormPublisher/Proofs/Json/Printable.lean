import FormPublisher.Json.Writer
import FormPublisher.Proofs.Number.Text
import FormPublisher.Proofs.Outcome

/-!
# JSON texts are printable

A JSON text in the compact layout holds printable characters of ASCII only, whatever value it was
written for (`Json.isPrintable_of_write`).  It is so for one character of a text, which is escaped
unless it is printable itself, and from there for texts, atoms, tokens, and rows of them with the
spaces in between.
-/

namespace FormPublisher

namespace Text

/-- A printable character of ASCII. -/
def IsPrintable (c : Char) : Prop := 32 ≤ c.toNat ∧ c.toNat < 127

instance : DecidablePred IsPrintable := fun c =>
  inferInstanceAs (Decidable (32 ≤ c.toNat ∧ c.toNat < 127))

theorem isPrintable_hexDigit {n : Nat} (h : n < 16) : IsPrintable (hexDigit n) := by
  have all : ∀ n < 16, IsPrintable (hexDigit n) := by decide
  exact all n h

theorem isPrintable_hexDigits (width n : Nat) : ∀ c ∈ hexDigits width n, IsPrintable c := by
  induction width generalizing n with
  | zero => exact List.forall_mem_nil _
  | succ width ih =>
    rw [hexDigits]
    refine List.forall_mem_append.mpr ⟨ih (n / 16), List.forall_mem_singleton.mpr ?_⟩
    apply isPrintable_hexDigit
    omega

end Text

open Text (IsPrintable)

/-! ### Numbers -/

namespace Numeral

theorem isPrintable_of_isNumberChar {c : Char} (h : isNumberChar c) : IsPrintable c := by
  have all : ∀ n < 10, IsPrintable (Char.ofNat (48 + n)) := by decide
  simp only [isNumberChar, Bool.or_eq_true, beq_iff_eq] at h
  rcases h with (((h | rfl) | rfl) | rfl) | rfl
  · obtain ⟨n, hn, rfl⟩ := exists_of_isDigit h
    exact all n hn
  all_goals decide

theorem isPrintable_toString (n : Int) : ∀ c ∈ (toString n).toList, IsPrintable c := by
  have hdigits : ∀ m : Nat, ∀ c ∈ Nat.toDigits 10 m, IsPrintable c := by
    intro m c hc
    apply isPrintable_of_isNumberChar
    simp [isNumberChar, isDigit_of_mem_toDigits c hc]
  cases n with
  | ofNat m =>
    rw [toList_toString_ofNat]
    exact hdigits m
  | negSucc m =>
    rw [toList_toString_negSucc]
    exact List.forall_mem_cons.mpr ⟨by decide, hdigits (m + 1)⟩

end Numeral

/-- A number is written in printable characters if its names are. -/
theorem Binary64.isPrintable_write {layout : FloatLayout}
    (hnan : ∀ c ∈ layout.nan.toList, IsPrintable c)
    (hinfinity : ∀ c ∈ layout.infinity.toList, IsPrintable c) (x : Binary64) :
    ∀ c ∈ (x.write layout).toList, IsPrintable c := by
  have hsign : ∀ negative : Bool, ∀ c ∈ (if negative then "-" else "").toList, IsPrintable c := by
    intro negative
    cases negative <;> exact List.all_iff_forall_prop.mp (by decide)
  cases x with
  | nan => exact hnan
  | infinite negative =>
    rw [write, String.toList_append]
    exact List.forall_mem_append.mpr ⟨hsign negative, hinfinity⟩
  | finite negative m e =>
    rw [write, String.toList_append]
    refine List.forall_mem_append.mpr ⟨hsign negative, ?_⟩
    split
    · exact List.all_iff_forall_prop.mp (by decide)
    · intro c hc
      rw [Numeral.toList_writeDecimal] at hc
      apply Numeral.isPrintable_of_isNumberChar
      exact Numeral.isNumberChar_of_mem_text _ (Numeral.isMarked_ofDecimal layout _) c hc

/-! ### Texts -/

namespace Json

/-- The letters of short escapes are printable. -/
theorem isPrintable_of_shortEscape? {c e : Char} (h : shortEscape? c = some e) :
    IsPrintable e := by
  unfold shortEscape? at h
  split_ifs at h <;> (obtain rfl := Option.some.inj h; decide)

/-- A unit that is escaped by its code. -/
theorem isPrintable_codeEscape (u : Nat) : ∀ c ∈ '\\' :: 'u' :: Text.hexDigits 4 u, IsPrintable c :=
  List.forall_mem_cons.mpr ⟨by decide,
    List.forall_mem_cons.mpr ⟨by decide, Text.isPrintable_hexDigits 4 u⟩⟩

/-- A character that is not printable is not spelled as itself. -/
theorem isPrintable_spellChar (c : Char) : ∀ d ∈ spellChar c, IsPrintable d := by
  unfold spellChar
  split
  case h_1 e he =>
    exact List.forall_mem_cons.mpr ⟨by decide,
      List.forall_mem_singleton.mpr (isPrintable_of_shortEscape? he)⟩
  case h_2 =>
    split
    case isTrue hprintable => exact List.forall_mem_singleton.mpr hprintable
    case isFalse =>
      intro d hd
      obtain ⟨u, -, hu⟩ := List.mem_flatMap.mp hd
      exact isPrintable_codeEscape u d hu

theorem isPrintable_spellPoint (u : Nat) : ∀ c ∈ spellPoint u, IsPrintable c := by
  unfold spellPoint
  split
  · exact isPrintable_codeEscape u
  · exact isPrintable_spellChar _

/-- What stands between quotation marks is spelled piece by piece. -/
theorem isPrintable_between {α : Type} {spell : α → List Char}
    (hspell : ∀ x, ∀ c ∈ spell x, IsPrintable c) (xs : List α) :
    ∀ c ∈ '"' :: (xs.flatMap spell ++ ['"']), IsPrintable c := by
  have hmark : IsPrintable '"' := by decide
  have hpieces : ∀ c ∈ xs.flatMap spell, IsPrintable c := by
    intro c hc
    obtain ⟨x, -, hx⟩ := List.mem_flatMap.mp hc
    exact hspell x c hx
  exact List.forall_mem_cons.mpr ⟨hmark,
    List.forall_mem_append.mpr ⟨hpieces, List.forall_mem_singleton.mpr hmark⟩⟩

/-! ### Tokens -/

theorem isPrintable_spellScalar (s : Scalar) : ∀ c ∈ spellScalar s, IsPrintable c := by
  cases s with
  | null => exact List.all_iff_forall_prop.mp (by decide)
  | bool b => cases b <;> exact List.all_iff_forall_prop.mp (by decide)
  | int n => exact Numeral.isPrintable_toString n
  | float x =>
    have hnan : ∀ c ∈ numberLayout.nan.toList, IsPrintable c :=
      List.all_iff_forall_prop.mp (by decide)
    have hinfinity : ∀ c ∈ numberLayout.infinity.toList, IsPrintable c :=
      List.all_iff_forall_prop.mp (by decide)
    exact Binary64.isPrintable_write hnan hinfinity x
  | text t => exact isPrintable_between isPrintable_spellChar t.toList
  | torn points => exact isPrintable_between isPrintable_spellPoint points
  | bytes _ | date _ | time _ => exact List.forall_mem_nil _

theorem isPrintable_spell (t : Token) : ∀ c ∈ t.spell, IsPrintable c := by
  cases t with
  | atom s => exact isPrintable_spellScalar s
  | _ => exact List.all_iff_forall_prop.mp (by decide)

/-- The only white space of the compact layout is a space. -/
theorem isPrintable_compact_gap (depth : Nat) (t next : Token) :
    ∀ c ∈ Layout.compact.gap depth t next, IsPrintable c := by
  cases t with
  | comma | colon => exact List.forall_mem_singleton.mpr (by decide)
  | _ => exact List.forall_mem_nil _

theorem isPrintable_spellAll (depth : Nat) (ts : List Token) :
    ∀ c ∈ spellAll .compact depth ts, IsPrintable c := by
  induction ts generalizing depth with
  | nil => exact List.forall_mem_nil _
  | cons t ts ih =>
    -- There is a gap behind a token only if another one follows.
    cases ts with
    | nil => exact isPrintable_spell t
    | cons next ts =>
      rw [spellAll]
      refine List.forall_mem_append.mpr ⟨List.forall_mem_append.mpr ⟨?_, ?_⟩, ih _⟩
      · exact isPrintable_spell t
      · exact isPrintable_compact_gap _ t next

/-- A JSON text in the compact layout is printable. -/
theorem isPrintable_of_write {v : Value} {text : String} (h : write .compact v = .ok text) :
    ∀ c ∈ text.toList, IsPrintable c := by
  obtain ⟨ts, -, rfl⟩ := map_eq_ok_iff.mp h
  rw [String.toList_ofList]
  exact isPrintable_spellAll 0 ts

end Json

end FormPublisher
