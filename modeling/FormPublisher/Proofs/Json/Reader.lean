import FormPublisher.Json.Reader
import FormPublisher.Proofs.Json.Value
import FormPublisher.Proofs.Number.Digits

/-!
# What is read out of JSON texts

Whatever a JSON text is read as is a JSON value (`isJson_of_read`), so that what is proved of JSON
values holds of all texts that can be read.

The tokens of a text have atoms that can stand in JSON (`isJson_of_mem_tokens_lexFrom`): an integer with
more digits than the limit is an error.  A step of the reader keeps the lists and the objects that
are open free of other values (`isJson_step`), and so does a run.
-/

namespace FormPublisher

namespace Json

/-! ### Words -/

/-- An unsigned number that has not too many digits is a number of JSON. -/
theorem isJson_of_readNumber? {negative : Bool} {cs : List Char} {s : Scalar}
    (hexcess : excessDigits? cs = none) (h : readNumber? negative cs = some s) : s.isJson := by
  unfold readNumber? at h
  dsimp only at h
  split at h
  · cases h
  · rename_i hwhole
    split at h
    · -- An integer has no more digits than the limit, since a leading zero stands alone.
      rename_i hrest
      have hdigits : ∀ c ∈ cs.takeWhile Char.isDigit, c.isDigit := fun c hc =>
        List.mem_takeWhile_imp hc
      have hlength : (cs.takeWhile Char.isDigit).length ≤ Numeral.digitLimit := by
        by_contra hlong
        have hzero : cs.head? ≠ some '0' := by
          intro hhead
          have hwholeHead : (cs.takeWhile Char.isDigit).head? = some '0' := by
            rw [List.head?_takeWhile, hhead]
            rfl
          have hone : (cs.takeWhile Char.isDigit).length = 1 := by
            by_contra hne
            exact hwhole (by simp [hwholeHead, hne])
          rw [hone] at hlong
          exact hlong (by decide)
        unfold excessDigits? at hexcess
        rw [hrest] at hexcess
        simp [startsDecimal, hzero, Nat.lt_of_not_le hlong] at hexcess
      have hwritable := Numeral.isWritable_ofDigits hdigits hlength
      obtain rfl := Option.some.inj h
      cases negative with
      | true => exact Numeral.isWritable_neg hwritable
      | false => exact hwritable
    · split at h
      · cases h
      · obtain ⟨e, -, rfl⟩ := Option.map_eq_some_iff.mp h
        rfl
    · obtain ⟨e, -, rfl⟩ := Option.map_eq_some_iff.mp h
      rfl

theorem isJson_of_readNumber {negative : Bool} {cs : List Char} {s : Scalar}
    (h : readNumber negative cs = .ok s) : s.isJson := by
  unfold readNumber at h
  split at h
  · cases h
  · rename_i hexcess
    split at h
    · rename_i hs
      obtain rfl := Except.ok.inj h
      exact isJson_of_readNumber? hexcess hs
    · cases h

theorem isJson_of_readWord {cs : List Char} {s : Scalar} (h : readWord cs = .ok s) :
    s.isJson := by
  unfold readWord at h
  split_ifs at h
  iterate 6
    · obtain rfl := Except.ok.inj h
      rfl
  split at h
  · exact isJson_of_readNumber h
  · exact isJson_of_readNumber h

/-! ### Tokens -/

/-- Whether the atom of a token can stand in a JSON text. -/
def Token.isJson : Token → Bool
  | .atom s => s.isJson
  | _ => true

theorem isJson_of_wordToken {read : List Char} {t : Token} (h : wordToken read = .ok t) :
    t.isJson := by
  unfold wordToken at h
  cases hs : readWord read.reverse with
  | error flaw =>
    rw [hs] at h
    cases h
  | ok s =>
    rw [hs] at h
    obtain rfl := Except.ok.inj h
    exact isJson_of_readWord hs

theorem isJson_ofPoints (points : List Nat) : (Scalar.ofPoints points).isJson := by
  unfold Scalar.ofPoints
  split
  · assumption
  · rfl

theorem isJson_of_mem_start {c : Char} {t : Token} (h : t ∈ (start c).2) : t.isJson := by
  unfold start at h
  split at h
  · cases h
  · split at h
    · cases h
    · split at h
      · rename_i t' ht
        obtain rfl := List.mem_singleton.mp h
        unfold punctuation? at ht
        split_ifs at ht <;> (obtain rfl := Option.some.inj ht; rfl)
      · cases h

theorem isJson_of_mem_advance {mode next : Mode} {c : Char} {ts : List Token}
    (h : advance mode c = .ok (next, ts)) : ∀ t ∈ ts, t.isJson := by
  cases mode with
  | between =>
    obtain ⟨rfl, rfl⟩ := Prod.mk.inj (Except.ok.inj h)
    exact fun t ht => isJson_of_mem_start ht
  | word read =>
    rw [advance] at h
    split at h
    · cases hw : wordToken read with
      | error flaw =>
        rw [hw] at h
        cases h
      | ok word =>
        rw [hw] at h
        obtain ⟨rfl, rfl⟩ := Prod.mk.inj (Except.ok.inj h)
        exact List.forall_mem_cons.mpr
          ⟨isJson_of_wordToken hw, fun t ht => isJson_of_mem_start ht⟩
    · obtain ⟨rfl, rfl⟩ := Prod.mk.inj (Except.ok.inj h)
      simp
  | text read =>
    rw [advance] at h
    split_ifs at h
    · obtain ⟨rfl, rfl⟩ := Prod.mk.inj (Except.ok.inj h)
      exact List.forall_mem_singleton.mpr (isJson_ofPoints _)
    · obtain ⟨rfl, rfl⟩ := Prod.mk.inj (Except.ok.inj h)
      simp
    · obtain ⟨rfl, rfl⟩ := Prod.mk.inj (Except.ok.inj h)
      simp
  | escape read =>
    rw [advance] at h
    split at h
    · obtain ⟨rfl, rfl⟩ := Prod.mk.inj (Except.ok.inj h)
      simp
    · split at h
      · obtain ⟨rfl, rfl⟩ := Prod.mk.inj (Except.ok.inj h)
        simp
      · cases h
  | code read left code =>
    rw [advance] at h
    split at h
    · split at h
      all_goals
        obtain ⟨rfl, rfl⟩ := Prod.mk.inj (Except.ok.inj h)
        simp
    · cases h

/-- The atoms in the tokens of a text can stand in JSON. -/
theorem isJson_of_mem_tokens_lexFrom {mode : Mode} {cs : List Char} :
    ∀ t ∈ (lexFrom mode cs).tokens, t.isJson := by
  induction cs generalizing mode with
  | nil =>
    cases mode with
    | word read =>
      rw [lexFrom]
      cases hw : wordToken read with
      | error flaw => simp
      | ok word => exact List.forall_mem_singleton.mpr (isJson_of_wordToken hw)
    | _ => simp [lexFrom]
  | cons c cs ih =>
    rw [lexFrom]
    cases hadvance : advance mode c with
    | error flaw => simp
    | ok out =>
      obtain ⟨next, ts⟩ := out
      intro t ht
      rcases List.mem_append.mp ht with ht | ht
      · exact isJson_of_mem_advance hadvance t ht
      · exact ih t ht

/-! ### Runs of the reader -/

/-- Whether what is read of a list or an object that is open is JSON. -/
def Frame.isJson : Frame → Bool
  | .items read => areJson read
  | .member read key => areJsonEntries read && key.isJsonKey

/-- Whether what is read so far is JSON. -/
def State.isJson : State → Bool
  | .value stack | .firstItem stack | .firstKey stack => stack.all Frame.isJson
  | .nextItem read stack => areJson read && stack.all Frame.isJson
  | .key read stack | .nextMember read stack => areJsonEntries read && stack.all Frame.isJson
  | .colon read k stack => areJsonEntries read && k.isJsonKey && stack.all Frame.isJson
  | .done v => v.isJson

theorem isJson_deliver {v : Value} (hv : v.isJson) {stack : List Frame}
    (hstack : stack.all Frame.isJson) : (deliver v stack).isJson := by
  cases stack with
  | nil => exact hv
  | cons frame stack =>
    rw [List.all_cons, Bool.and_eq_true] at hstack
    obtain ⟨hframe, hstack⟩ := hstack
    cases frame with
    | items read =>
      simp only [deliver, State.isJson, areJson, Bool.and_eq_true]
      exact ⟨⟨hv, hframe⟩, hstack⟩
    | member read key =>
      rw [Frame.isJson, Bool.and_eq_true] at hframe
      simp only [deliver, State.isJson, Bool.and_eq_true]
      exact ⟨areJsonEntries_put hframe.1 hframe.2 hv, hstack⟩

variable {limit : Nat}

theorem isJson_enter {kind : Kind} {next : List Frame → State} {stack : List Frame} {s : State}
    (h : enter limit kind next stack = .ok s) (hnext : (next stack).isJson) : s.isJson := by
  unfold enter at h
  split at h
  · cases h
  · rwa [← Except.ok.inj h]

theorem isJson_openValue {stack : List Frame} {t : Token} {s : State}
    (hstack : stack.all Frame.isJson) (ht : t.isJson) (h : openValue limit stack t = .ok s) :
    s.isJson := by
  cases t with
  | openList | openObject => exact isJson_enter h hstack
  | atom a =>
    obtain rfl := Except.ok.inj h
    exact isJson_deliver (v := .scalar a) ht hstack
  | closeList | closeObject | comma | colon => cases h

theorem isJson_takeKey {read : Entries} {k : Scalar} {stack : List Frame} {s : State}
    (hread : areJsonEntries read) (hk : k.isJson) (hstack : stack.all Frame.isJson)
    (h : takeKey read k stack = .ok s) : s.isJson := by
  unfold takeKey at h
  split at h
  · rename_i hkind
    obtain rfl := Except.ok.inj h
    simp only [State.isJson, Scalar.isJsonKey, hkind, decide_true, Bool.true_and, Bool.and_eq_true]
    exact ⟨⟨hread, hk⟩, hstack⟩
  · cases h

/-- One token leaves what is read so far JSON. -/
theorem isJson_step {s s' : State} {t : Token} (hs : s.isJson) (ht : t.isJson)
    (h : step limit s t = .ok s') : s'.isJson := by
  unfold step at h
  split at h
  -- A value begins.
  · exact isJson_openValue hs ht h
  -- A list ends without items, or has a first one.
  · obtain rfl := Except.ok.inj h
    exact isJson_deliver rfl hs
  · refine isJson_openValue ?_ ht h
    rw [List.all_cons, Bool.and_eq_true]
    exact ⟨rfl, hs⟩
  -- A list goes on or ends.
  · obtain rfl := Except.ok.inj h
    exact hs
  · simp only [State.isJson, Bool.and_eq_true] at hs
    obtain rfl := Except.ok.inj h
    refine isJson_deliver (Value.isJson_list_iff.mpr ?_) hs.2
    simpa using areJson_iff.mp hs.1
  -- An object ends without members, or a key comes.
  · obtain rfl := Except.ok.inj h
    exact isJson_deliver rfl hs
  · exact isJson_takeKey rfl ht hs h
  · simp only [State.isJson, Bool.and_eq_true] at hs
    exact isJson_takeKey hs.1 ht hs.2 h
  · obtain rfl := Except.ok.inj h
    exact hs
  -- An object goes on or ends.
  · obtain rfl := Except.ok.inj h
    exact hs
  · simp only [State.isJson, Bool.and_eq_true] at hs
    obtain rfl := Except.ok.inj h
    exact isJson_deliver (v := .map _) hs.1 hs.2
  · cases h

theorem isJson_run {ts : List Token} {s s' : State} (hs : s.isJson) (hts : ∀ t ∈ ts, t.isJson)
    (h : run limit s ts = .ok s') : s'.isJson := by
  unfold run at h
  induction ts generalizing s with
  | nil =>
    obtain rfl := Except.ok.inj h
    exact hs
  | cons t ts ih =>
    obtain ⟨ht, hts⟩ := List.forall_mem_cons.mp hts
    rw [List.foldlM_cons] at h
    obtain ⟨next, hnext, h⟩ := bind_eq_ok_iff.mp h
    exact ih (isJson_step hs ht hnext) hts h

/-- What a text is read as is a JSON value. -/
theorem isJson_of_read {s : String} {v : Value} (h : read s = .ok v) : v.isJson := by
  obtain ⟨state, hrun, hfinish⟩ := bind_eq_ok_iff.mp h
  have hstate := isJson_run (by rfl) isJson_of_mem_tokens_lexFrom hrun
  unfold finish at hfinish
  split at hfinish
  · cases hfinish
  · cases hfinish
  · split at hfinish
    · obtain rfl := Except.ok.inj hfinish
      exact hstate
    · cases hfinish

end Json

end FormPublisher
