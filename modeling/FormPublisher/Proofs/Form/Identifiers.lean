import FormPublisher.Form.Encoding
import FormPublisher.Proofs.Json.Writable

/-!
# Identifiers of conditions

Encoding a list of conditions draws one identifier for each term, for each action, and for each
condition that has no identifier of its own (`encodeConditions_draws`).  The identifiers that are
drawn are, one by one and in order, those of the terms, of the actions and of the condition itself,
condition by condition, so that none is given away twice if the supply does not repeat itself.

Nothing is encoded unless the operators of all terms and what all actions do can be written as JSON
text (`Condition.IsWritable`).
-/

namespace FormPublisher

/-! ### Terms and actions with a JSON text -/

/-- The object for a term is written exactly if its operator can be. -/
theorem Term.hasText_encode_iff (t : Term) (id : String) :
    (t.encode id).HasText ↔ t.operator.HasText := by
  rw [encode, Value.hasText_object_iff]
  simp [Value.hasText_text, Value.hasText_bool]

/-- The object for an action is written exactly if what it does can be. -/
theorem Action.hasText_encode_iff (a : Action) (id : String) :
    (a.encode id).HasText ↔ a.visibility.HasText := by
  rw [encode, Value.hasText_object_iff]
  simp [Value.hasText_text, Value.hasText_bool]

/-! ### Numbers and their digits -/

theorem Text.hexDigit_injective {m n : Nat} (hm : m < 16) (hn : n < 16)
    (h : Text.hexDigit m = Text.hexDigit n) : m = n := by
  have hvalue := Text.hexValue?_hexDigit hm
  rw [h, Text.hexValue?_hexDigit hn] at hvalue
  exact (Option.some.inj hvalue).symm

/-- Numbers that fit into so many hexadecimal digits differ in one of them. -/
theorem Text.hexDigits_injective {width m n : Nat} (hm : m < 16 ^ width) (hn : n < 16 ^ width)
    (h : Text.hexDigits width m = Text.hexDigits width n) : m = n := by
  induction width generalizing m n with
  | zero => omega
  | succ width ih =>
    -- The last digit is the remainder, and those before it are the digits of the quotient.
    rw [pow_succ] at hm hn
    obtain ⟨hrest, hlast⟩ := List.append_inj' h rfl
    have hdiv : m / 16 = n / 16 := ih (by omega) (by omega) hrest
    have hmod : m % 16 = n % 16 := Text.hexDigit_injective (Nat.mod_lt _ (by decide))
      (Nat.mod_lt _ (by decide)) (List.cons.inj hlast).1
    omega

/-- Identifiers of numbers below this bound show all their digits. -/
def identifierBound : Nat := 16 ^ 32

/-- Two identifiers are the same only if their numbers are, whatever the words. -/
theorem identifier_injective {word word' : String} {m n : Nat} (hm : m < identifierBound)
    (hn : n < identifierBound) (h : identifier word m = identifier word' n) : m = n := by
  have hchars : (word ++ "_").toList ++ Text.hexDigits 32 m =
      (word' ++ "_").toList ++ Text.hexDigits 32 n := by
    have htoList := congrArg String.toList h
    simpa only [identifier, Text.hex, String.toList_append, String.toList_ofList] using htoList
  obtain ⟨-, hdigits⟩ := List.append_inj' hchars (by simp only [Text.length_hexDigits])
  exact Text.hexDigits_injective hm hn hdigits

/-! ### Drawing identifiers -/

namespace IdSupply

/-- The supply from which so many numbers more have been drawn. -/
def skip (s : IdSupply) (n : Nat) : IdSupply := { s with drawn := s.drawn + n }

/-- The next identifiers, for things with these words. -/
def newIds (s : IdSupply) (words : List String) : List String :=
  words.mapIdx fun k word => identifier word (s.source (s.drawn + k))

/-- The next numbers fit into an identifier, and no two of them are the same. -/
structure IsFresh (s : IdSupply) (n : Nat) : Prop where
  fits : ∀ k < n, s.source (s.drawn + k) < identifierBound
  injective : ∀ i < n, ∀ j < n, s.source (s.drawn + i) = s.source (s.drawn + j) → i = j

variable {s : IdSupply}

@[simp] theorem skip_skip (m n : Nat) : (s.skip m).skip n = s.skip (m + n) := by
  simp [skip, Nat.add_assoc]

@[simp] theorem length_newIds (words : List String) : (s.newIds words).length = words.length := by
  simp [newIds]

theorem newIds_append (words words' : List String) :
    s.newIds (words ++ words') = s.newIds words ++ (s.skip words.length).newIds words' := by
  simp only [newIds, List.mapIdx_append, skip, Nat.add_assoc, Nat.add_comm words.length]

theorem newIds_cons (word : String) (words : List String) :
    s.newIds (word :: words) = identifier word (s.source s.drawn) :: (s.skip 1).newIds words :=
  newIds_append [word] words

/-- A supply that does not repeat itself gives different identifiers. -/
theorem IsFresh.nodup_newIds {words : List String} (h : s.IsFresh words.length) :
    (s.newIds words).Nodup := by
  refine List.pairwise_iff_getElem.mpr fun i j hi hj hij heq => ?_
  rw [length_newIds] at hi hj
  simp only [newIds, List.getElem_mapIdx] at heq
  have hsource := identifier_injective (h.fits i hi) (h.fits j hj) heq
  exact Nat.ne_of_lt hij (h.injective i hi j hj hsource)

end IdSupply

namespace Drawing

variable {α β : Type} {s s' : IdSupply}

/-- A drawing goes on with what was drawn and with the identifiers that are left. -/
theorem run_bind_of_ok {d : Drawing α} {a : α} (h : d.run.run s = (.ok a, s'))
    (f : α → Drawing β) : (d >>= f).run.run s = (f a).run.run s' := by
  rw [ExceptT.run_bind, StateT.run_bind, h]
  rfl

/-- A drawing that fails goes no further. -/
theorem run_bind_of_error {d : Drawing α} {m : Misuse} (h : d.run.run s = (.error m, s'))
    (f : α → Drawing β) : (d >>= f).run.run s = (.error m, s') := by
  rw [ExceptT.run_bind, StateT.run_bind, h]
  rfl

/-- A drawing in two steps gives what the second step gives from where the first has left the
supply. -/
theorem run_bind_eq_ok_iff {d : Drawing α} {f : α → Drawing β} {b : β} :
    (d >>= f).run.run s = (.ok b, s') ↔
      ∃ a s₁, d.run.run s = (.ok a, s₁) ∧ (f a).run.run s₁ = (.ok b, s') := by
  constructor
  · intro h
    rw [ExceptT.run_bind, StateT.run_bind] at h
    rcases hd : d.run.run s with ⟨e | a, s₁⟩
    · -- A first step that fails leaves nothing for the second.
      rw [hd] at h
      cases congrArg Prod.fst h
    · rw [hd] at h
      exact ⟨a, s₁, rfl, h⟩
  · rintro ⟨a, s₁, hd, hf⟩
    rw [run_bind_of_ok hd, hf]

/-- One identifier is drawn for each thing of a list. -/
theorem run_mapM_newId (f : α → String → β) (word : String) (xs : List α) :
    (xs.mapM fun x => do return f x (← newId word) : Drawing (List β)).run.run s =
      (.ok (List.zipWith f xs (s.newIds (List.replicate xs.length word))), s.skip xs.length) := by
  induction xs generalizing s with
  | nil => rfl
  | cons x xs ih =>
    have hx : (do return f x (← newId word) : Drawing β).run.run s =
        (.ok (f x (identifier word (s.source s.drawn))), s.skip 1) := rfl
    rw [List.mapM_cons, run_bind_of_ok hx, run_bind_of_ok ih, List.length_cons,
      List.replicate_succ, IdSupply.newIds_cons, IdSupply.skip_skip, Nat.add_comm]
    rfl

end Drawing

/-! ### Encoding one condition -/

/-- The identifiers that are drawn for a condition: for its terms, for its actions, and for itself
unless it keeps one of its own. -/
structure NewIds where
  terms : List String
  actions : List String
  own : Option String

/-- All of them, in the order in which they are drawn. -/
def NewIds.all (n : NewIds) : List String := n.terms ++ n.actions ++ n.own.toList

namespace Condition

/-- A condition whose terms and actions can be written as JSON text. -/
structure IsWritable (c : Condition) : Prop where
  operator : ∀ t ∈ c.terms, t.operator.HasText
  visibility : ∀ a ∈ c.actions, a.visibility.HasText

/-- Whether a condition has no identifier that counts as present. -/
def lacksId (c : Condition) : Bool := (c.id.bind Value.present?).isNone

/-- The words for the things of a condition that need an identifier, in the order in which they get
it. -/
def words (c : Condition) : List String :=
  List.replicate c.terms.length "term" ++ List.replicate c.actions.length "action" ++
    if c.lacksId then ["condition"] else []

/-- The identifiers for a condition from a supply. -/
def newIds (c : Condition) (s : IdSupply) : NewIds where
  terms := s.newIds (List.replicate c.terms.length "term")
  actions := (s.skip c.terms.length).newIds (List.replicate c.actions.length "action")
  own :=
    if c.lacksId then
      ((s.skip (c.terms.length + c.actions.length)).newIds ["condition"]).head?
    else none

/-- A condition keeps its own identifier as it is, and else takes the new one. -/
def SendsId (c : Condition) (new : Option String) (id : Value) : Prop :=
  match c.id.bind Value.present? with
  | some own => new = none ∧ id = own
  | none => ∃ n : String, new = some n ∧ id = .text n

/-- What a condition at an index of a list is encoded as with these identifiers: the texts of the
terms and of the actions have one each, and index and priority are the index in decimal. -/
structure IsEncodedWith (c : Condition) (index : Nat) (n : NewIds) (e : EncodedCondition) :
    Prop where
  length_terms : n.terms.length = c.terms.length
  length_actions : n.actions.length = c.actions.length
  terms : Json.write .compact (.list (List.zipWith Term.encode c.terms n.terms)) = .ok e.terms
  action :
    Json.write .compact (.list (List.zipWith Action.encode c.actions n.actions)) = .ok e.action
  id : c.SendsId n.own e.id
  sent : e.toValue = .object [("id", e.id), ("index", .text (toString index)),
    ("link", .text c.link.name), ("priority", .text (toString index)), ("type", .text "field"),
    ("terms", .text e.terms), ("action", .text e.action)]
  link : e.link = c.link
  index : e.index = index

variable {c : Condition} {index : Nat} {s s' : IdSupply} {e : EncodedCondition}

theorem length_words (c : Condition) :
    c.words.length = c.terms.length + c.actions.length + if c.lacksId then 1 else 0 := by
  unfold words
  split <;> simp [Nat.add_assoc]

/-- The identifiers for a condition are the next ones for its words. -/
theorem all_newIds (c : Condition) (s : IdSupply) : (c.newIds s).all = s.newIds c.words := by
  unfold NewIds.all newIds words
  rw [IdSupply.newIds_append, IdSupply.newIds_append]
  simp only [List.length_append, List.length_replicate]
  split <;> rfl

/-- Writing the texts of the terms and of the actions draws nothing. -/
theorem run_texts (id : Value) (index : Nat) (link : Link) (terms actions : Value) (s : IdSupply) :
    (do return { id, index, link, terms := ← compactText terms, action := ← compactText actions } :
        Drawing EncodedCondition).run.run s =
      ((do return {
          id, index, link
          terms := ← Json.write .compact terms
          action := ← Json.write .compact actions }), s) := by
  simp only [compactText]
  cases Json.write .compact terms with
  | error m => rfl
  | ok termsText =>
    cases Json.write .compact actions with
    | error m => rfl
    | ok actionsText => rfl

/-- The identifiers are drawn before the texts of the terms and of the actions are written. -/
theorem run_encode (c : Condition) (index : Nat) (s : IdSupply) :
    (c.encode index).run.run s =
      let n := c.newIds s
      ((do return {
          id := (c.id.bind Value.present?).getD (Value.ofText? n.own)
          index
          link := c.link
          terms := ← Json.write .compact (.list (List.zipWith Term.encode c.terms n.terms))
          action := ← Json.write .compact (.list (List.zipWith Action.encode c.actions n.actions))
          }), s.skip c.words.length) := by
  unfold encode
  rw [Drawing.run_bind_of_ok (Drawing.run_mapM_newId Term.encode "term" c.terms),
    Drawing.run_bind_of_ok (Drawing.run_mapM_newId Action.encode "action" c.actions),
    IdSupply.skip_skip, length_words]
  unfold newIds lacksId
  -- The same two texts follow, whether the condition has an identifier of its own or not.
  cases c.id.bind Value.present? with
  | some own => exact run_texts own index c.link _ _ _
  | none =>
    have hnew : (Value.text <$> newId "condition").run.run
        (s.skip (c.terms.length + c.actions.length)) = (.ok (.text (identifier "condition"
          (s.source (s.drawn + (c.terms.length + c.actions.length))))),
        s.skip (c.terms.length + c.actions.length + 1)) := rfl
    refine (Drawing.run_bind_of_ok hnew _).trans ?_
    exact run_texts _ index c.link _ _ _

/-- What a condition is encoded as, and how far the supply has come. -/
theorem isEncodedWith_of_run (h : (c.encode index).run.run s = (.ok e, s')) :
    c.IsEncodedWith index (c.newIds s) e ∧ s' = s.skip c.words.length := by
  rw [run_encode] at h
  obtain ⟨hdone, hsupply⟩ := Prod.mk.inj h
  obtain ⟨terms, hterms, hdone⟩ := bind_eq_ok_iff.mp hdone
  obtain ⟨action, haction, hdone⟩ := bind_eq_ok_iff.mp hdone
  obtain rfl := Except.ok.inj hdone
  refine ⟨⟨by simp [newIds], by simp [newIds], hterms, haction, ?_, rfl, rfl, rfl⟩, hsupply.symm⟩
  unfold SendsId newIds lacksId
  cases c.id.bind Value.present? with
  | some own => exact ⟨rfl, rfl⟩
  | none => exact ⟨_, rfl, rfl⟩

/-- Nothing stands in the way of encoding a condition but its terms and actions. -/
theorem exists_run_encode_iff (c : Condition) (index : Nat) (s : IdSupply) :
    (∃ e s', (c.encode index).run.run s = (.ok e, s')) ↔ c.IsWritable := by
  have hlength : (c.newIds s).terms.length = c.terms.length := by simp [newIds]
  have hlength' : (c.newIds s).actions.length = c.actions.length := by simp [newIds]
  have hterms := Value.hasText_zipWith_iff Term.hasText_encode_iff hlength
  have hactions := Value.hasText_zipWith_iff Action.hasText_encode_iff hlength'
  constructor
  · rintro ⟨e, s', hrun⟩
    obtain ⟨hencoded, -⟩ := isEncodedWith_of_run hrun
    exact ⟨hterms.mp ⟨_, hencoded.terms⟩, hactions.mp ⟨_, hencoded.action⟩⟩
  · rintro ⟨hoperator, hvisibility⟩
    obtain ⟨terms, hwritten⟩ := hterms.mpr hoperator
    obtain ⟨actions, hwritten'⟩ := hactions.mpr hvisibility
    rw [run_encode]
    dsimp only
    rw [hwritten, hwritten']
    exact ⟨_, _, rfl⟩

end Condition

/-! ### Encoding a list of conditions -/

/-- What the conditions from an index on are encoded as with these identifiers. -/
inductive AreEncodedWith : Nat → List Condition → List NewIds → List EncodedCondition → Prop
  | nil {index : Nat} : AreEncodedWith index [] [] []
  | cons {index : Nat} {c : Condition} {cs : List Condition} {n : NewIds} {ns : List NewIds}
      {e : EncodedCondition} {es : List EncodedCondition} (head : c.IsEncodedWith index n e)
      (tail : AreEncodedWith (index + 1) cs ns es) :
      AreEncodedWith index (c :: cs) (n :: ns) (e :: es)

/-- How many identifiers are drawn for conditions: one for each term, one for each action and one
for each condition without an identifier that counts as present. -/
def idCount (cs : List Condition) : Nat :=
  (cs.map fun c => c.terms.length).sum + (cs.map fun c => c.actions.length).sum +
    cs.countP Condition.lacksId

theorem length_flatMap_words (cs : List Condition) :
    (cs.flatMap Condition.words).length = idCount cs := by
  induction cs with
  | nil => rfl
  | cons c cs ih =>
    rw [List.flatMap_cons, List.length_append, ih, Condition.length_words]
    simp only [idCount, List.map_cons, List.sum_cons, List.countP_cons]
    omega

section Run

variable {cs : List Condition} {es : List EncodedCondition} {index : Nat} {s s' : IdSupply}

theorem AreEncodedWith.length_eq {ns : List NewIds} (h : AreEncodedWith index cs ns es) :
    es.length = cs.length := by
  induction h with
  | nil => rfl
  | cons _ _ ih => rw [List.length_cons, List.length_cons, ih]

/-- The identifiers for the conditions of a list are the next ones for their words. -/
theorem areEncodedWith_of_run (h : (encodeFrom index cs).run.run s = (.ok es, s')) :
    s' = s.skip (cs.flatMap Condition.words).length ∧
      ∃ ns, AreEncodedWith index cs ns es ∧
        ns.flatMap NewIds.all = s.newIds (cs.flatMap Condition.words) := by
  induction cs generalizing index s es with
  | nil =>
    obtain ⟨hes, rfl⟩ := Prod.mk.inj h
    obtain rfl := Except.ok.inj hes
    exact ⟨rfl, [], .nil, rfl⟩
  | cons c cs ih =>
    rw [encodeFrom] at h
    obtain ⟨e, s₁, hhead, h⟩ := Drawing.run_bind_eq_ok_iff.mp h
    obtain ⟨rest, s₂, htail, h⟩ := Drawing.run_bind_eq_ok_iff.mp h
    obtain ⟨hes, rfl⟩ := Prod.mk.inj h
    obtain rfl := Except.ok.inj hes
    obtain ⟨hencoded, rfl⟩ := Condition.isEncodedWith_of_run hhead
    -- The other conditions draw from where the first has left the supply.
    obtain ⟨rfl, ns, hrest, hids⟩ := ih htail
    refine ⟨?_, c.newIds s :: ns, .cons hencoded hrest, ?_⟩
    · rw [List.flatMap_cons, List.length_append, IdSupply.skip_skip]
    · rw [List.flatMap_cons, List.flatMap_cons, IdSupply.newIds_append, Condition.all_newIds, hids]

/-- Conditions are encoded exactly if each of them can be. -/
theorem exists_run_encodeFrom_iff :
    (∃ es s', (encodeFrom index cs).run.run s = (.ok es, s')) ↔ ∀ c ∈ cs, c.IsWritable := by
  induction cs generalizing index s with
  | nil => exact ⟨fun _ => List.forall_mem_nil _, fun _ => ⟨[], s, rfl⟩⟩
  | cons c cs ih =>
    rw [List.forall_mem_cons, ← Condition.exists_run_encode_iff c index s]
    simp only [encodeFrom, Drawing.run_bind_eq_ok_iff]
    constructor
    · rintro ⟨es, s', e, s₁, hhead, rest, s₂, htail, -⟩
      exact ⟨⟨e, s₁, hhead⟩, ih.mp ⟨rest, s₂, htail⟩⟩
    · rintro ⟨⟨e, s₁, hhead⟩, hcs⟩
      obtain ⟨rest, s₂, htail⟩ := ih.mpr hcs
      exact ⟨_, _, e, s₁, hhead, rest, s₂, htail, rfl⟩

end Run

/-- A list of conditions is encoded exactly if the terms and actions of all of them can be written.
Then one identifier was drawn for each term, each action and each condition that has none, and these
identifiers are, in the order in which they were drawn, those of the conditions one after another,
each of them for its terms, its actions and itself; no two of them are the same. -/
theorem encodeConditions_draws {cs : List Condition} {s : IdSupply} (hs : s.IsFresh (idCount cs)) :
    ((∃ es s', (encodeConditions cs).run.run s = (.ok es, s')) ↔ ∀ c ∈ cs, c.IsWritable) ∧
    ∀ es s', (encodeConditions cs).run.run s = (.ok es, s') →
      s' = s.skip (idCount cs) ∧ es.length = cs.length ∧
      ∃ ns, AreEncodedWith 0 cs ns es ∧
        ns.flatMap NewIds.all = s.newIds (cs.flatMap Condition.words) ∧
        (ns.flatMap NewIds.all).Nodup := by
  refine ⟨exists_run_encodeFrom_iff, fun es s' hrun => ?_⟩
  obtain ⟨hsupply, ns, hencoded, hids⟩ := areEncodedWith_of_run hrun
  rw [length_flatMap_words] at hsupply
  refine ⟨hsupply, hencoded.length_eq, ns, hencoded, hids, ?_⟩
  rw [hids]
  exact IdSupply.IsFresh.nodup_newIds (by rwa [length_flatMap_words])

/-- A condition with a term and an action, and one with an action that keeps its own identifier. -/
theorem encodeConditions_draws_of_own_id :
    let cs : List Condition := [
      { terms := [{ field := "2", operator := .text "equals", value := "Yes" }]
        actions := [{ field := "3", visibility := .text "Show" }] },
      { terms := [], actions := [{ field := "4", visibility := .text "Hide" }], link := .any
        id := some (.text "mine") }]
    IdSupply.counting.IsFresh (idCount cs) ∧
      ∃ es s', (encodeConditions cs).run.run .counting = (.ok es, s') ∧ s'.drawn = 4 ∧
        es.length = 2 ∧ ∃ ns, AreEncodedWith 0 cs ns es ∧
          ns.flatMap NewIds.all = ["term_00000000000000000000000000000001",
            "action_00000000000000000000000000000002",
            "condition_00000000000000000000000000000003",
            "action_00000000000000000000000000000004"] ∧
          (ns.flatMap NewIds.all).Nodup := by
  intro cs
  have hfresh : IdSupply.counting.IsFresh (idCount cs) :=
    ⟨by decide, fun i _ j _ h => by simpa [IdSupply.counting] using h⟩
  have hwritable : ∀ c ∈ cs, c.IsWritable := List.forall_mem_cons.mpr
    ⟨⟨by simp [Value.hasText_text], by simp [Value.hasText_text]⟩, List.forall_mem_singleton.mpr
      ⟨by simp, by simp [Value.hasText_text]⟩⟩
  obtain ⟨hiff, hruns⟩ := encodeConditions_draws hfresh
  obtain ⟨es, s', hrun⟩ := hiff.mpr hwritable
  obtain ⟨rfl, hlength, ns, hencoded, hids, hnodup⟩ := hruns es s' hrun
  refine ⟨hfresh, es, _, hrun, rfl, hlength, ns, hencoded, hids.trans ?_, hnodup⟩
  decide

/-- An operator with too many digits cannot be written, and an identifier that a condition keeps can
be the one that another condition is given. -/
theorem encodeConditions_of_long_operator_and_taken_id :
    (∀ es s', (encodeConditions [
        { terms := [{ field := "1", operator := .int Numeral.writableBound, value := "" }]
          actions := [] }]).run.run .counting ≠ (.ok es, s')) ∧
      ∃ es, (encodeConditions [
          { terms := [], actions := [] },
          { terms := [], actions := []
            id := some (.text "condition_00000000000000000000000000000001") }]).run.run .counting =
          (.ok es, IdSupply.counting.skip 1) ∧
        es.map (fun e => e.id) = [.text "condition_00000000000000000000000000000001",
          .text "condition_00000000000000000000000000000001"] := by
  constructor
  · intro es s' hrun
    have hwritable := exists_run_encodeFrom_iff.mp ⟨es, s', hrun⟩
    have hoperator := (hwritable _ List.mem_cons_self).operator _ List.mem_cons_self
    rw [Value.hasText_int_iff, Numeral.isWritable, decide_eq_true_iff, Int.natAbs_natCast]
      at hoperator
    exact Nat.lt_irrefl _ hoperator
  · refine ⟨_, rfl, ?_⟩
    have hdrawn : identifier "condition" 1 = "condition_00000000000000000000000000000001" := by
      decide
    show [Value.text (identifier "condition" 1), _] = _
    rw [hdrawn]

end FormPublisher
