import FormPublisher.Proofs.Json.Lexing
import Mathlib.Data.List.Chain

/-!
# Values that are read back from their JSON texts

A JSON value is read back from the text that is written for it (`readWithin_write`), in every layout
that puts only white space between tokens and by every reader that takes in lists and objects nested
as deep as those of the value.

There are two halves.  The tokens of a value can be spelled and no two atoms meet among them
(`isLegible_tokens`), so the text is cut into these tokens again.  And the machine that takes in the
tokens of a value where a value may come delivers this value (`run_tokens`); it need not be the
whole text, which is what the induction is on.

Decimals and torn texts are left out (`Value.isPlain`).
-/

namespace FormPublisher

/-! ### Values without decimals and torn texts -/

mutual

/-- Whether there is no decimal and no torn text in a value. -/
def Value.isPlain : Value → Bool
  | .scalar s => s.isPlain
  | .list items => arePlain items
  | .pair a b => a.isPlain && b.isPlain
  | .map entries => arePlainEntries entries
  | .set members => members.all Scalar.isPlain
  | .knot _ v => v.isPlain
  | .back _ _ => true

/-- Whether there is no decimal and no torn text in the items of a list. -/
def arePlain : List Value → Bool
  | [] => true
  | v :: vs => v.isPlain && arePlain vs

/-- Whether there is no decimal and no torn text in the entries of a mapping. -/
def arePlainEntries : List (Scalar × Value) → Bool
  | [] => true
  | (k, v) :: es => k.isPlain && v.isPlain && arePlainEntries es

end

theorem arePlain_iff {vs : List Value} : arePlain vs ↔ ∀ v ∈ vs, v.isPlain := by
  induction vs with
  | nil => simp [arePlain]
  | cons v vs ih => simp [arePlain, ih]

/-- An object of values without decimals and torn texts has none either. -/
theorem Value.isPlain_object {fields : List (String × Value)} (h : ∀ f ∈ fields, f.2.isPlain) :
    (Value.object fields).isPlain := by
  have hentries : ∀ es : Entries, (∀ e ∈ es, e.1.isPlain ∧ e.2.isPlain) → arePlainEntries es := by
    intro es hes
    induction es with
    | nil => rfl
    | cons e es ih =>
      obtain ⟨he, hes⟩ := List.forall_mem_cons.mp hes
      simp only [arePlainEntries, Bool.and_eq_true]
      exact ⟨he, ih hes⟩
  refine hentries _ fun e he => ?_
  obtain ⟨f, hf, rfl⟩ := List.mem_map.mp he
  exact ⟨rfl, h f hf⟩

/-! ### Nesting -/

mutual

/-- How many lists and mappings of a value stand inside one another. -/
def Value.nesting : Value → Nat
  | .list items => nestingOfItems items + 1
  | .pair a b => max a.nesting b.nesting + 1
  | .map entries => nestingOfEntries entries + 1
  | .knot _ v => v.nesting
  | .scalar _ | .set _ | .back _ _ => 0

/-- How many lists and mappings in the items of a list stand inside one another. -/
def nestingOfItems : List Value → Nat
  | [] => 0
  | v :: vs => max v.nesting (nestingOfItems vs)

/-- How many lists and mappings in the entries of a mapping stand inside one another. -/
def nestingOfEntries : List (Scalar × Value) → Nat
  | [] => 0
  | (_, v) :: es => max v.nesting (nestingOfEntries es)

end

namespace Json

variable {inFull : Bool} {ts : List Token}

/-! ### Tokens of a value -/

theorem tokens_scalar_eq {s : Scalar} (hs : s.isJson) (h : tokens inFull (.scalar s) = .ok ts) :
    ts = [.atom s] := by
  rw [tokens, scalarToken_of_isJson hs] at h
  exact (Except.ok.inj h).symm

theorem tokens_list_cons_eq_ok_iff {v : Value} {vs : List Value} :
    tokens inFull (.list (v :: vs)) = .ok ts ↔
      ∃ first rest, tokens inFull v = .ok first ∧ itemTokens inFull vs = .ok rest ∧
        .openList :: first ++ rest = ts := by
  simp [tokens, bind_eq_ok_iff]

theorem tokens_map_cons_eq_ok_iff {k : Scalar} (hk : k.isJsonKey) {v : Value} {es : Entries} :
    tokens inFull (.map ((k, v) :: es)) = .ok ts ↔
      ∃ first rest, tokens inFull v = .ok first ∧ memberTokens inFull es = .ok rest ∧
        .openObject :: .atom k :: .colon :: first ++ rest = ts := by
  simp [tokens, bind_eq_ok_iff, keyToken_of_isJsonKey hk]

theorem itemTokens_cons_eq_ok_iff {v : Value} {vs : List Value} :
    itemTokens inFull (v :: vs) = .ok ts ↔
      ∃ first rest, tokens inFull v = .ok first ∧ itemTokens inFull vs = .ok rest ∧
        .comma :: first ++ rest = ts := by
  simp [itemTokens, bind_eq_ok_iff]

theorem memberTokens_cons_eq_ok_iff {k : Scalar} (hk : k.isJsonKey) {v : Value} {es : Entries} :
    memberTokens inFull ((k, v) :: es) = .ok ts ↔
      ∃ first rest, tokens inFull v = .ok first ∧ memberTokens inFull es = .ok rest ∧
        .comma :: .atom k :: .colon :: first ++ rest = ts := by
  simp [memberTokens, bind_eq_ok_iff, keyToken_of_isJsonKey hk]

/-! ### Legible rows -/

/-- Two rows of which the second begins with no atom make a legible row. -/
theorem IsLegible.append {first rest : List Token} (hfirst : IsLegible first)
    (hrest : IsLegible rest) (h : ∀ t ∈ rest.head?, t.isAtom = false) :
    IsLegible (first ++ rest) where
  isJson := List.forall_mem_append.mpr ⟨hfirst.isJson, hrest.isJson⟩
  isPlain := List.forall_mem_append.mpr ⟨hfirst.isPlain, hrest.isPlain⟩
  apart := List.isChain_append.mpr ⟨hfirst.apart, hrest.apart, fun t _ next hnext => by
    simp [h next hnext]⟩

/-- A token that is no atom in front leaves a row legible. -/
theorem IsLegible.cons {t : Token} (ht : t.isAtom = false) (h : IsLegible ts) :
    IsLegible (t :: ts) := by
  have hone : t.isJson ∧ t.isPlain := by
    cases t with
    | atom s => cases ht
    | _ => exact ⟨rfl, rfl⟩
  refine ⟨List.forall_mem_cons.mpr ⟨hone.1, h.isJson⟩,
    List.forall_mem_cons.mpr ⟨hone.2, h.isPlain⟩, ?_⟩
  cases ts with
  | nil => exact List.IsChain.singleton _
  | cons next ts => exact List.isChain_cons_cons.mpr ⟨by simp [ht], h.apart⟩

theorem isLegible_nil : IsLegible [] :=
  ⟨List.forall_mem_nil _, List.forall_mem_nil _, .nil⟩

theorem isLegible_atom {s : Scalar} (hs : s.isJson) (hplain : s.isPlain) :
    IsLegible [.atom s] :=
  ⟨List.forall_mem_singleton.mpr hs, List.forall_mem_singleton.mpr hplain,
    List.IsChain.singleton _⟩

/-- A member whose value is legible is legible. -/
theorem isLegible_member {k : Scalar} (hk : k.isJson) (hplain : k.isPlain)
    (h : IsLegible ts) : IsLegible (.atom k :: .colon :: ts) :=
  (isLegible_atom hk hplain).append (h.cons rfl) fun _ ht => by
    obtain rfl := Option.some.inj ht
    rfl

theorem isAtom_of_head?_itemTokens {vs : List Value} (h : itemTokens inFull vs = .ok ts) :
    ∀ t ∈ ts.head?, t.isAtom = false := by
  cases vs with
  | nil =>
    obtain rfl := Except.ok.inj h
    decide
  | cons v vs =>
    obtain ⟨first, rest, -, -, rfl⟩ := itemTokens_cons_eq_ok_iff.mp h
    simp [Token.isAtom]

theorem isAtom_of_head?_memberTokens {es : Entries} (hes : areJsonEntries es)
    (h : memberTokens inFull es = .ok ts) : ∀ t ∈ ts.head?, t.isAtom = false := by
  cases es with
  | nil =>
    obtain rfl := Except.ok.inj h
    decide
  | cons e es =>
    obtain ⟨⟨hk, -⟩, -, -⟩ := areJsonEntries_cons_iff.mp hes
    obtain ⟨first, rest, -, -, rfl⟩ := (memberTokens_cons_eq_ok_iff hk).mp h
    simp [Token.isAtom]

mutual

/-- No two atoms meet among the tokens of a JSON value. -/
theorem isLegible_tokens {v : Value} (hv : v.isJson) (hplain : v.isPlain) {ts : List Token}
    (h : tokens inFull v = .ok ts) : IsLegible ts := by
  cases v with
  | scalar s =>
    rw [tokens_scalar_eq hv h]
    exact isLegible_atom hv hplain
  | list items =>
    cases items with
    | nil =>
      obtain rfl := Except.ok.inj h
      exact (isLegible_nil.cons rfl).cons rfl
    | cons v vs =>
      simp only [Value.isJson, areJson, Bool.and_eq_true] at hv
      simp only [Value.isPlain, arePlain, Bool.and_eq_true] at hplain
      obtain ⟨first, rest, hfirst, hrest, rfl⟩ := tokens_list_cons_eq_ok_iff.mp h
      exact ((isLegible_tokens hv.1 hplain.1 hfirst).append
        (isLegible_itemTokens hv.2 hplain.2 hrest) (isAtom_of_head?_itemTokens hrest)).cons rfl
  | map entries =>
    cases entries with
    | nil =>
      obtain rfl := Except.ok.inj h
      exact (isLegible_nil.cons rfl).cons rfl
    | cons e es =>
      obtain ⟨k, v⟩ := e
      obtain ⟨⟨hk, hv⟩, -, hes⟩ := areJsonEntries_cons_iff.mp hv
      simp only [Value.isPlain, arePlainEntries, Bool.and_eq_true] at hplain
      obtain ⟨first, rest, hfirst, hrest, rfl⟩ := (tokens_map_cons_eq_ok_iff hk).mp h
      exact (isLegible_member (Scalar.isJson_of_isJsonKey hk) hplain.1.1
        ((isLegible_tokens hv hplain.1.2 hfirst).append
          (isLegible_memberTokens hes hplain.2 hrest)
          (isAtom_of_head?_memberTokens hes hrest))).cons rfl
  | pair _ _ | set _ | knot _ _ | back _ _ => simp [Value.isJson] at hv

theorem isLegible_itemTokens {vs : List Value} (hvs : areJson vs) (hplain : arePlain vs)
    {ts : List Token} (h : itemTokens inFull vs = .ok ts) : IsLegible ts := by
  cases vs with
  | nil =>
    obtain rfl := Except.ok.inj h
    exact isLegible_nil.cons rfl
  | cons v vs =>
    simp only [areJson, Bool.and_eq_true] at hvs
    simp only [arePlain, Bool.and_eq_true] at hplain
    obtain ⟨first, rest, hfirst, hrest, rfl⟩ := itemTokens_cons_eq_ok_iff.mp h
    exact ((isLegible_tokens hvs.1 hplain.1 hfirst).append
      (isLegible_itemTokens hvs.2 hplain.2 hrest) (isAtom_of_head?_itemTokens hrest)).cons rfl

theorem isLegible_memberTokens {es : Entries} (hes : areJsonEntries es)
    (hplain : arePlainEntries es) {ts : List Token} (h : memberTokens inFull es = .ok ts) :
    IsLegible ts := by
  cases es with
  | nil =>
    obtain rfl := Except.ok.inj h
    exact isLegible_nil.cons rfl
  | cons e es =>
    obtain ⟨k, v⟩ := e
    obtain ⟨⟨hk, hv⟩, -, hes⟩ := areJsonEntries_cons_iff.mp hes
    simp only [arePlainEntries, Bool.and_eq_true] at hplain
    obtain ⟨first, rest, hfirst, hrest, rfl⟩ := (memberTokens_cons_eq_ok_iff hk).mp h
    exact (isLegible_member (Scalar.isJson_of_isJsonKey hk) hplain.1.1
      ((isLegible_tokens hv hplain.1.2 hfirst).append
        (isLegible_memberTokens hes hplain.2 hrest)
        (isAtom_of_head?_memberTokens hes hrest))).cons rfl

end

/-! ### The machine on the tokens of a value -/

variable {limit : Nat}

theorem run_cons {s s' : State} {t : Token} (h : step limit s t = .ok s') (ts : List Token) :
    run limit s (t :: ts) = run limit s' ts := by
  rw [run, List.foldlM_cons, h]
  rfl

/-- The tokens of a value begin with one that ends no list. -/
theorem exists_tokens_eq_cons {v : Value} (hv : v.isJson) (h : tokens inFull v = .ok ts) :
    ∃ t rest, ts = t :: rest ∧ t ≠ .closeList := by
  cases v with
  | scalar s => exact ⟨.atom s, [], tokens_scalar_eq hv h, by simp⟩
  | list items =>
    cases items with
    | nil => exact ⟨_, _, (Except.ok.inj h).symm, by simp⟩
    | cons v vs =>
      obtain ⟨first, rest, -, -, rfl⟩ := tokens_list_cons_eq_ok_iff.mp h
      exact ⟨.openList, first ++ rest, rfl, by simp⟩
  | map entries =>
    cases entries with
    | nil => exact ⟨_, _, (Except.ok.inj h).symm, by simp⟩
    | cons e es =>
      obtain ⟨⟨hk, -⟩, -, -⟩ := areJsonEntries_cons_iff.mp hv
      obtain ⟨first, rest, -, -, rfl⟩ := (tokens_map_cons_eq_ok_iff hk).mp h
      exact ⟨.openObject, _, rfl, by simp⟩
  | pair _ _ | set _ | knot _ _ | back _ _ => simp [Value.isJson] at hv

/-- The first item of a list is taken in like any other value. -/
theorem run_firstItem {t : Token} (ht : t ≠ .closeList) (stack : List Frame) (ts : List Token) :
    run limit (.firstItem stack) (t :: ts) = run limit (.value (.items [] :: stack)) (t :: ts) := by
  have hstep : step limit (.firstItem stack) t = step limit (.value (.items [] :: stack)) t := by
    cases t with
    | closeList => exact absurd rfl ht
    | _ => rfl
  rw [run, run, List.foldlM_cons, List.foldlM_cons, hstep]

/-- Among the members of an object a key that comes later is put to the end. -/
theorem put_of_areJsonEntries {read es : Entries} {k : Scalar} {v : Value}
    (h : areJsonEntries (read ++ (k, v) :: es)) : Entries.put k v read = read ++ [(k, v)] := by
  induction read with
  | nil => rfl
  | cons e read ih =>
    obtain ⟨k', v'⟩ := e
    obtain ⟨⟨hk', -⟩, hnew, hes⟩ := areJsonEntries_cons_iff.mp h
    have hmem : (k, v) ∈ read ++ (k, v) :: es := by simp
    have hk : k.isJsonKey := ((areJsonEntries_iff.mp hes).1 _ hmem).1
    have hne : k ≠ k' := hnew _ hmem
    rw [Entries.put, Scalar.sameKey_of_isJsonKey hk' hk, if_neg (by simpa using hne.symm), ih hes]
    rfl

/-- A member is taken in if its value is. -/
theorem run_member {read es : Entries} {k : Scalar} {v : Value}
    (h : areJsonEntries (read ++ (k, v) :: es)) {stack : List Frame} {first more : List Token}
    (hfirst : run limit (.value (.member read k :: stack)) (first ++ more) =
      run limit (deliver v (.member read k :: stack)) more) :
    run limit (.colon read k stack) (.colon :: (first ++ more)) =
      run limit (.nextMember (read ++ [(k, v)]) stack) more := by
  have hcolon : step limit (.colon read k stack) .colon = .ok (.value (.member read k :: stack)) :=
    rfl
  rw [run_cons hcolon, hfirst, deliver, put_of_areJsonEntries h]

theorem takeKey_of_isJsonKey {k : Scalar} (hk : k.isJsonKey) (read : Entries)
    (stack : List Frame) : takeKey read k stack = .ok (.colon read k stack) := by
  rw [Scalar.isJsonKey, Bool.and_eq_true, decide_eq_true_iff] at hk
  exact if_pos hk.1

mutual

/-- Where a value may come, the tokens of a JSON value deliver this value. -/
theorem run_tokens {v : Value} (hv : v.isJson) {ts : List Token} (h : tokens inFull v = .ok ts)
    {stack : List Frame} (hdepth : stack.length + v.nesting ≤ limit) (more : List Token) :
    run limit (.value stack) (ts ++ more) = run limit (deliver v stack) more := by
  cases v with
  | scalar s =>
    rw [tokens_scalar_eq hv h]
    exact run_cons rfl more
  | list items =>
    have henter : ∀ ts, run limit (.value stack) (.openList :: ts) =
        run limit (.firstItem stack) ts := by
      rw [Value.nesting] at hdepth
      exact run_cons (if_neg (by omega))
    cases items with
    | nil =>
      obtain rfl := Except.ok.inj h
      rw [List.cons_append, henter]
      exact run_cons rfl more
    | cons v vs =>
      simp only [Value.isJson, areJson, Bool.and_eq_true] at hv
      simp only [Value.nesting, nestingOfItems] at hdepth
      obtain ⟨first, rest, hfirst, hrest, rfl⟩ := tokens_list_cons_eq_ok_iff.mp h
      -- The first item is known by its first token, which does not close the list.
      obtain ⟨t, others, rfl, ht⟩ := exists_tokens_eq_cons hv.1 hfirst
      rw [List.cons_append, List.cons_append, henter, List.append_assoc, List.cons_append,
        run_firstItem ht, ← List.cons_append,
        run_tokens hv.1 hfirst (by rw [List.length_cons]; omega)]
      exact run_itemTokens hv.2 hrest (by omega) more
  | map entries =>
    have henter : ∀ ts, run limit (.value stack) (.openObject :: ts) =
        run limit (.firstKey stack) ts := by
      rw [Value.nesting] at hdepth
      exact run_cons (if_neg (by omega))
    cases entries with
    | nil =>
      obtain rfl := Except.ok.inj h
      rw [List.cons_append, henter]
      exact run_cons rfl more
    | cons e es =>
      obtain ⟨k, v⟩ := e
      have hes : areJsonEntries ([] ++ (k, v) :: es) := hv
      obtain ⟨hk, hvalue⟩ : k.isJsonKey ∧ v.isJson :=
        (areJsonEntries_iff.mp hes).1 (k, v) List.mem_cons_self
      simp only [Value.nesting, nestingOfEntries] at hdepth
      obtain ⟨first, rest, hfirst, hrest, rfl⟩ := (tokens_map_cons_eq_ok_iff hk).mp h
      have hkey : ∀ ts, run limit (.firstKey stack) (.atom k :: ts) =
          run limit (.colon [] k stack) ts := run_cons (takeKey_of_isJsonKey hk [] stack)
      simp only [List.cons_append, List.append_assoc]
      rw [henter, hkey, run_member hes
        (run_tokens hvalue hfirst (by rw [List.length_cons]; omega) (rest ++ more)),
        List.nil_append]
      have hrun : areJsonEntries ([(k, v)] ++ es) := hes
      exact run_memberTokens hrun hrest (by omega) more
  | pair _ _ | set _ | knot _ _ | back _ _ => simp [Value.isJson] at hv

theorem run_itemTokens {vs : List Value} (hvs : areJson vs) {ts : List Token}
    (h : itemTokens inFull vs = .ok ts) {read : List Value} {stack : List Frame}
    (hdepth : stack.length + nestingOfItems vs + 1 ≤ limit) (more : List Token) :
    run limit (.nextItem read stack) (ts ++ more) =
      run limit (deliver (.list (read.reverse ++ vs)) stack) more := by
  cases vs with
  | nil =>
    obtain rfl := Except.ok.inj h
    rw [List.append_nil]
    exact run_cons rfl more
  | cons v vs =>
    simp only [areJson, Bool.and_eq_true] at hvs
    rw [nestingOfItems] at hdepth
    obtain ⟨first, rest, hfirst, hrest, rfl⟩ := itemTokens_cons_eq_ok_iff.mp h
    have hcomma : ∀ ts, run limit (.nextItem read stack) (.comma :: ts) =
        run limit (.value (.items read :: stack)) ts := run_cons rfl
    rw [List.cons_append, List.cons_append, hcomma, List.append_assoc,
      run_tokens hvs.1 hfirst (by rw [List.length_cons]; omega), deliver,
      run_itemTokens hvs.2 hrest (by omega), List.reverse_cons, List.append_assoc]
    rfl

theorem run_memberTokens {read es : Entries} (hes : areJsonEntries (read ++ es))
    {ts : List Token} (h : memberTokens inFull es = .ok ts) {stack : List Frame}
    (hdepth : stack.length + nestingOfEntries es + 1 ≤ limit) (more : List Token) :
    run limit (.nextMember read stack) (ts ++ more) =
      run limit (deliver (.map (read ++ es)) stack) more := by
  cases es with
  | nil =>
    obtain rfl := Except.ok.inj h
    rw [List.append_nil]
    exact run_cons rfl more
  | cons e es =>
    obtain ⟨k, v⟩ := e
    obtain ⟨hk, hvalue⟩ : k.isJsonKey ∧ v.isJson :=
      (areJsonEntries_iff.mp hes).1 (k, v) (by simp)
    rw [nestingOfEntries] at hdepth
    obtain ⟨first, rest, hfirst, hrest, rfl⟩ := (memberTokens_cons_eq_ok_iff hk).mp h
    have hcomma : ∀ ts, run limit (.nextMember read stack) (.comma :: ts) =
        run limit (.key read stack) ts := run_cons rfl
    have hkey : ∀ ts, run limit (.key read stack) (.atom k :: ts) =
        run limit (.colon read k stack) ts := run_cons (takeKey_of_isJsonKey hk read stack)
    -- The member moves from those that are to come to those that are read.
    have happend : read ++ (k, v) :: es = (read ++ [(k, v)]) ++ es := by simp
    simp only [List.cons_append, List.append_assoc]
    rw [hcomma, hkey, run_member hes
      (run_tokens hvalue hfirst (by rw [List.length_cons]; omega) (rest ++ more)), happend]
    exact run_memberTokens (happend ▸ hes) hrest (by omega) more

end

/-! ### Texts of values -/

/-- A JSON value is read back from its text, whatever white space stands between the tokens. -/
theorem readWithin_write {layout : Layout} (hlayout : layout.IsBlank) {v : Value} (hv : v.isJson)
    (hplain : v.isPlain) {text : String} (h : write layout v = .ok text)
    (hdepth : v.nesting ≤ limit) : readWithin limit text = .ok v := by
  obtain ⟨ts, hts, htext⟩ := map_eq_ok_iff.mp h
  have hlex : lex text.toList = { tokens := ts } := by
    rw [← htext, String.toList_ofList]
    exact lexFrom_spellAll hlayout (isLegible_tokens hv hplain hts) 0
  have hrun : run limit (.value []) ts = .ok (.done v) := by
    have h : run limit (.value []) (ts ++ []) = run limit (deliver v []) [] :=
      run_tokens hv hts (by simpa using hdepth) []
    rwa [List.append_nil] at h
  rw [readWithin, hlex, ofLexed, hrun]
  rfl

/-- Whether a text is read as a value by all readers that take in what is nested so deep. -/
def IsTextOf (text : String) (v : Value) : Prop :=
  ∀ limit, v.nesting ≤ limit → readWithin limit text = .ok v

theorem isTextOf_write {layout : Layout} (hlayout : layout.IsBlank) {v : Value} (hv : v.isJson)
    (hplain : v.isPlain) {text : String} (h : write layout v = .ok text) : IsTextOf text v :=
  fun _ hdepth => readWithin_write hlayout hv hplain h hdepth

/-- A text is the text of one value only. -/
theorem IsTextOf.unique {text : String} {v w : Value} (hv : IsTextOf text v)
    (hw : IsTextOf text w) : v = w :=
  Except.ok.inj ((hv _ (Nat.le_max_left v.nesting w.nesting)).symm.trans
    (hw _ (Nat.le_max_right v.nesting w.nesting)))

end Json

end FormPublisher
