import FormPublisher.Json.Reader
import FormPublisher.Proofs.Outcome
import Mathlib.Tactic.SplitIfs

/-!
# What can be wrong with JSON

A text that is no JSON is malformed.  Beside this a text may hold an integer with too many digits, or
a list or an object inside too many others, and that is all (`Json.isFlaw_of_read`).  The first comes
from the lexer and the second from the machine that takes the tokens.
-/

namespace FormPublisher.Json

/-- A flaw that a text of JSON can have. -/
inductive IsFlaw : Flaw → Prop
  | malformed : IsFlaw .malformed
  | digits {count : Nat} (h : Numeral.digitLimit < count) : IsFlaw (.literal (.digits count))
  | tooDeep (kind : Kind) : IsFlaw (.literal (.tooDeep kind))

variable {flaw : Flaw}

theorem isFlaw_of_eq_malformed {α : Type} (h : (.error .malformed : Except Flaw α) = .error flaw) :
    IsFlaw flaw :=
  Except.error.inj h ▸ .malformed

/-! ### Lexing -/

theorem lt_of_excessDigits? {cs : List Char} {count : Nat} (h : excessDigits? cs = some count) :
    Numeral.digitLimit < count := by
  unfold excessDigits? at h
  dsimp only at h
  split at h
  · rename_i hexcess
    obtain rfl := Option.some.inj h
    simp only [Bool.and_eq_true, decide_eq_true_eq] at hexcess
    exact hexcess.1.1
  · cases h

theorem isFlaw_of_readNumber {negative : Bool} {cs : List Char}
    (h : readNumber negative cs = .error flaw) : IsFlaw flaw := by
  unfold readNumber at h
  split at h
  case h_1 count hcount =>
    obtain rfl := Except.error.inj h
    exact .digits (lt_of_excessDigits? hcount)
  case h_2 =>
    split at h
    · cases h
    · exact isFlaw_of_eq_malformed h

theorem isFlaw_of_wordToken {read : List Char} (h : wordToken read = .error flaw) :
    IsFlaw flaw := by
  have hword : readWord read.reverse = .error flaw := map_eq_error_iff.mp h
  -- names are right or no names at all, so that only numbers are left, with or without a sign
  unfold readWord at hword
  split_ifs at hword
  split at hword
  · exact isFlaw_of_readNumber hword
  · exact isFlaw_of_readNumber hword

theorem isFlaw_of_advance {mode : Mode} {c : Char} (h : advance mode c = .error flaw) :
    IsFlaw flaw := by
  cases mode with
  | between => cases h
  | word read =>
    rw [advance] at h
    split_ifs at h
    exact isFlaw_of_wordToken (map_eq_error_iff.mp h)
  | text read =>
    rw [advance] at h
    split_ifs at h
    exact isFlaw_of_eq_malformed h
  | escape read =>
    rw [advance] at h
    split_ifs at h
    split at h
    · cases h
    · exact isFlaw_of_eq_malformed h
  | code read left code =>
    rw [advance] at h
    split at h
    · split_ifs at h
    · exact isFlaw_of_eq_malformed h

/-- What is wrong behind the tokens of a text. -/
theorem isFlaw_of_lexFrom {mode : Mode} {cs : List Char}
    (h : (lexFrom mode cs).flaw = some flaw) : IsFlaw flaw := by
  induction cs generalizing mode with
  | nil =>
    cases mode with
    | between => cases h
    | word read =>
      rw [lexFrom] at h
      cases hword : wordToken read with
      | ok t =>
        rw [hword] at h
        cases h
      | error flaw' =>
        rw [hword] at h
        obtain rfl := Option.some.inj h
        exact isFlaw_of_wordToken hword
    | _ =>
      obtain rfl := Option.some.inj h
      exact .malformed
  | cons c cs ih =>
    rw [lexFrom] at h
    cases hadvance : advance mode c with
    | ok out =>
      rw [hadvance] at h
      exact ih h
    | error flaw' =>
      rw [hadvance] at h
      obtain rfl := Option.some.inj h
      exact isFlaw_of_advance hadvance

/-! ### Reading -/

variable {limit : Nat}

theorem isFlaw_of_enter {kind : Kind} {next : List Frame → State} {stack : List Frame}
    (h : enter limit kind next stack = .error flaw) : IsFlaw flaw := by
  unfold enter at h
  split_ifs at h
  obtain rfl := Except.error.inj h
  exact .tooDeep kind

theorem isFlaw_of_openValue {stack : List Frame} {t : Token}
    (h : openValue limit stack t = .error flaw) : IsFlaw flaw := by
  cases t with
  | openList | openObject => exact isFlaw_of_enter h
  | atom s => cases h
  | closeList | closeObject | comma | colon =>
    exact isFlaw_of_eq_malformed h

theorem isFlaw_of_takeKey {read : Entries} {k : Scalar} {stack : List Frame}
    (h : takeKey read k stack = .error flaw) : IsFlaw flaw := by
  unfold takeKey at h
  split_ifs at h
  exact isFlaw_of_eq_malformed h

/-- A token that is not taken is out of place, or it begins a value that stands too deep. -/
theorem isFlaw_of_step {s : State} {t : Token} (h : step limit s t = .error flaw) :
    IsFlaw flaw := by
  unfold step at h
  split at h
  -- the tokens that may be out of place here begin a value or are a key
  case h_1 | h_3 => exact isFlaw_of_openValue h
  case h_7 | h_8 => exact isFlaw_of_takeKey h
  case h_12 =>
    exact isFlaw_of_eq_malformed h
  all_goals cases h

theorem isFlaw_of_run {ts : List Token} {s : State} (h : run limit s ts = .error flaw) :
    IsFlaw flaw := by
  unfold run at h
  induction ts generalizing s with
  | nil => cases h
  | cons t ts ih =>
    rw [List.foldlM_cons] at h
    rcases bind_eq_error_iff.mp h with hstep | ⟨next, -, hrest⟩
    · exact isFlaw_of_step hstep
    · exact ih hrest

theorem isFlaw_of_finish {s : State} {behind : Option Flaw}
    (hbehind : ∀ flaw, behind = some flaw → IsFlaw flaw) (h : finish s behind = .error flaw) :
    IsFlaw flaw := by
  unfold finish at h
  split at h
  case h_1 cause =>
    obtain rfl := Except.error.inj h
    split
    · exact hbehind _ rfl
    · exact .malformed
  case h_2 =>
    exact isFlaw_of_eq_malformed h
  case h_3 =>
    split at h
    · cases h
    · exact isFlaw_of_eq_malformed h

/-- A text that is not read is malformed, or it asks too much of the reader. -/
theorem isFlaw_of_read {s : String} (h : read s = .error flaw) : IsFlaw flaw := by
  rcases bind_eq_error_iff.mp h with hrun | ⟨state, -, hfinish⟩
  · exact isFlaw_of_run hrun
  · exact isFlaw_of_finish (fun flaw' hflaw => isFlaw_of_lexFrom hflaw) hfinish

end FormPublisher.Json
