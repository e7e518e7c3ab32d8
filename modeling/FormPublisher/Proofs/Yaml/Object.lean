import FormPublisher.Proofs.Value.Proper
import FormPublisher.Proofs.Yaml.Literal
import FormPublisher.Yaml.Object

/-!
# Keys of objects

The keys of every mapping and of every set of a document differ (`holds_objects`), whatever aliases
it has and whatever is merged into it: an entry is written in the place of the one whose key it has,
and every key is a scalar that was read.

A step in the making of objects may fail.  `Keeps` says of a step what is true after it unless it
does, so that a property of the objects made so far goes through all steps one after another.
-/

namespace FormPublisher.Yaml

/-! ### Steps with a state -/

section Keeps

variable {ε σ α β : Type} {I : σ → Prop} {P : α → Prop} {Q : β → Prop}

/-- If a step succeeds, it keeps a property of the state, and what it gives has another. -/
def Keeps (I : σ → Prop) (P : α → Prop) (x : StateT σ (Except ε) α) : Prop :=
  ∀ s r, I s → x.run s = .ok r → I r.2 ∧ P r.1

theorem keeps_pure {a : α} (ha : P a) : Keeps I P (pure a : StateT σ (Except ε) α) := by
  intro s r hs h
  obtain rfl := Except.ok.inj h
  exact ⟨hs, ha⟩

theorem keeps_throw (e : ε) : Keeps I P (throw e : StateT σ (Except ε) α) := by
  intro s r hs h
  cases h

theorem keeps_get : Keeps I I (get : StateT σ (Except ε) σ) := by
  intro s r hs h
  obtain rfl := Except.ok.inj h
  exact ⟨hs, hs⟩

theorem keeps_set {s : σ} (hs : I s) :
    Keeps I (fun _ => True) (set s : StateT σ (Except ε) PUnit) := by
  intro _ r _ h
  obtain rfl := Except.ok.inj h
  exact ⟨hs, trivial⟩

theorem keeps_modify {f : σ → σ} (hf : ∀ s, I s → I (f s)) :
    Keeps I (fun _ => True) (modify f : StateT σ (Except ε) PUnit) := by
  intro s r hs h
  obtain rfl := Except.ok.inj h
  exact ⟨hf s hs, trivial⟩

/-- A computation without state leaves the state as it is. -/
theorem keeps_lift {x : Except ε α} (hx : ∀ a, x = .ok a → P a) :
    Keeps I P (liftM x : StateT σ (Except ε) α) := by
  intro s r hs h
  obtain ⟨a, ha, h⟩ := bind_eq_ok_iff.mp h
  obtain rfl := Except.ok.inj h
  exact ⟨hs, hx a ha⟩

theorem Keeps.bind {x : StateT σ (Except ε) α} {f : α → StateT σ (Except ε) β}
    (hx : Keeps I P x) (hf : ∀ a, P a → Keeps I Q (f a)) : Keeps I Q (x >>= f) := by
  intro s r hs h
  rw [StateT.run_bind] at h
  obtain ⟨r', hr', h⟩ := bind_eq_ok_iff.mp h
  obtain ⟨hs', ha⟩ := hx s r' hs hr'
  exact hf r'.1 ha r'.2 r hs' h

theorem Keeps.map {x : StateT σ (Except ε) α} {f : α → β} (hx : Keeps I P x)
    (hf : ∀ a, P a → Q (f a)) : Keeps I Q (f <$> x) := by
  rw [map_eq_pure_bind]
  exact hx.bind fun a ha => keeps_pure (hf a ha)

theorem keeps_mapM {f : β → StateT σ (Except ε) α} {xs : List β}
    (h : ∀ x ∈ xs, Keeps I P (f x)) : Keeps I (fun ys => ∀ y ∈ ys, P y) (xs.mapM f) := by
  induction xs with
  | nil => exact keeps_pure (List.forall_mem_nil _)
  | cons x xs ih =>
    obtain ⟨hx, hxs⟩ := List.forall_mem_cons.mp h
    rw [List.mapM_cons]
    exact hx.bind fun y hy => (ih hxs).bind fun ys hys =>
      keeps_pure (List.forall_mem_cons.mpr ⟨hy, hys⟩)

theorem keeps_foldlM {f : α → β → StateT σ (Except ε) α} {xs : List β}
    (h : ∀ x ∈ xs, ∀ a, P a → Keeps I P (f a x)) {a : α} (ha : P a) :
    Keeps I P (xs.foldlM f a) := by
  induction xs generalizing a with
  | nil => exact keeps_pure ha
  | cons x xs ih =>
    obtain ⟨hx, hxs⟩ := List.forall_mem_cons.mp h
    rw [List.foldlM_cons]
    exact (hx a ha).bind fun b hb => ih hxs hb

theorem keeps_forIn {f : β → α → StateT σ (Except ε) (ForInStep α)} {xs : List β}
    (h : ∀ x ∈ xs, ∀ a, Keeps I (fun _ => True) (f x a)) (a : α) :
    Keeps I (fun _ => True) (forIn xs a f) := by
  induction xs generalizing a with
  | nil => exact keeps_pure trivial
  | cons x xs ih =>
    obtain ⟨hx, hxs⟩ := List.forall_mem_cons.mp h
    rw [List.forIn_cons]
    refine (hx a).bind fun step _ => ?_
    cases step with
    | done b => exact keeps_pure trivial
    | yield b => exact ih hxs b

end Keeps

/-! ### Tables -/

section Tables

variable {α : Type} {P : α → Prop} {xs : Array (Option α)}

/-- What a table has at its places has a property. -/
def Holds (P : α → Prop) (xs : Array (Option α)) : Prop := ∀ i a, xs.getD i none = some a → P a

theorem holds_replicate (n : Nat) : Holds P (Array.replicate n none) := by
  intro i a h
  simp [Array.getD_eq_getD_getElem?, Array.getElem?_replicate] at h
  split at h <;> simp at h

theorem Holds.set (h : Holds P xs) (i : Nat) {a : α} (ha : P a) :
    Holds P (xs.setIfInBounds i (some a)) := by
  intro j b hb
  rw [Array.getD_eq_getD_getElem?, Array.getElem?_setIfInBounds] at hb
  split at hb
  · split at hb
    · obtain rfl := Option.some.inj hb
      exact ha
    · cases hb
  · exact h j b (by rw [Array.getD_eq_getD_getElem?]; exact hb)

end Tables

/-! ### Parts -/

/-- A part that is no decimal, or a double. -/
def Part.IsProper : Part → Prop
  | .atom a => a.scalar.IsDouble
  | .collection _ => True

/-- The keys of entries that are not yet put together. -/
def keysOf (es : List (Atom × Part)) : List Scalar := es.map fun e => e.1.scalar

/-- A collection whose keys differ if it is a mapping or a set. -/
def Body.IsProper : Body → Prop
  | .map es => AreProperKeys (keysOf es)
  | .set members => AreProperKeys (members.map fun a => a.scalar)
  | .list _ | .pairs _ => True

/-- An entry that is written replaces the one with its key, or it comes last. -/
theorem keysOf_putPart (key : Atom) (p : Part) (es : List (Atom × Part)) :
    keysOf (putPart key p es) =
      if es.any (fun e => e.1.sameKey key) then keysOf es else keysOf es ++ [key.scalar] := by
  induction es with
  | nil => rfl
  | cons e es ih =>
    obtain ⟨k, q⟩ := e
    rw [putPart, List.any_cons]
    cases hk : k.sameKey key with
    | true => rfl
    | false =>
      have hcons : ∀ r : List (Atom × Part), keysOf ((k, q) :: r) = k.scalar :: keysOf r :=
        fun _ => rfl
      rw [if_neg Bool.false_ne_true, Bool.false_or, hcons, hcons, ih]
      split <;> rfl

theorem areProperKeys_putPart {es : List (Atom × Part)} (h : AreProperKeys (keysOf es)) {key : Atom}
    (hkey : key.scalar.IsDouble) (p : Part) : AreProperKeys (keysOf (putPart key p es)) := by
  rw [keysOf_putPart]
  split
  case isTrue => exact h
  case isFalse hnew =>
    refine h.concat hkey fun k hk => ?_
    obtain ⟨e, he, rfl⟩ := List.mem_map.mp hk
    rw [List.any_eq_true, not_exists] at hnew
    -- Atoms are the same key wherever their scalars are, so different atoms have different scalars.
    have hne : e.1.sameKey key = false := Bool.eq_false_iff.mpr fun hsame => hnew e ⟨he, hsame⟩
    exact (Bool.or_eq_false_iff.mp hne).1

/-- The atom of a node is no decimal, or a double. -/
theorem isDouble_of_atom {ns : Nodes} {i : Place} {a : Atom} (h : ns.atom i = .ok a) :
    a.scalar.IsDouble := by
  obtain ⟨points, -, h⟩ := bind_eq_ok_iff.mp h
  dsimp only at h
  split at h
  · cases h
  · obtain rfl := Except.ok.inj h
    unfold Scalar.ofPoints
    split <;> trivial
  · obtain ⟨s, hs, h⟩ := bind_eq_ok_iff.mp h
    obtain rfl := Except.ok.inj h
    exact Tag.isDouble_of_read hs

/-! ### Making objects -/

/-- The parts that were met and the collections that were filled are proper. -/
structure Objects.AreProper (o : Objects) : Prop where
  parts : Holds Part.IsProper o.parts
  bodies : Holds Body.IsProper o.bodies

namespace Making

open Objects (AreProper)

theorem keeps_part (i : Place) : Keeps AreProper Part.IsProper (part i) := by
  unfold part
  refine keeps_get.bind fun o ho => ?_
  split
  case h_1 p hp => exact keeps_pure (ho.parts i p hp)
  case h_2 =>
    split
    · refine (keeps_lift fun a => isDouble_of_atom).bind fun a ha => ?_
      refine (keeps_modify fun o ho => ?_).bind fun _ _ => keeps_pure ha
      exact ⟨ho.parts.set i ha, ho.bodies⟩
    · split
      · refine (keeps_modify fun o ho => ?_).bind fun _ _ => keeps_pure trivial
        exact ⟨ho.parts.set i trivial, ho.bodies⟩
      · exact keeps_throw _

theorem keeps_key (i : Place) : Keeps AreProper (fun a => a.scalar.IsDouble) (key i) := by
  refine (keeps_part i).bind fun p hp => ?_
  cases p with
  | atom a => exact keeps_pure hp
  | collection _ => exact keeps_throw _

theorem keeps_entries (i : Place) :
    Keeps AreProper (fun es => AreProperKeys (keysOf es)) (entries i) := by
  unfold entries
  refine keeps_get.bind fun o ho => ?_
  split
  · refine (keeps_lift fun _ _ => trivial).bind fun nodes _ => ?_
    refine (keeps_set ⟨ho.parts, ho.bodies⟩).bind fun _ _ => ?_
    -- The entries start out empty, and writing one more keeps their keys proper.
    refine keeps_foldlM (fun e _ es hes => ?_) AreProperKeys.nil
    exact (keeps_key e.1).bind fun k hk => (keeps_part e.2).bind fun v _ =>
      keeps_pure (areProperKeys_putPart hes hk v)
  · exact keeps_throw _

theorem keeps_pair (i : Place) : Keeps AreProper (fun _ => True) (pair i) := by
  unfold pair
  refine keeps_get.bind fun o _ => ?_
  split
  · exact (keeps_part _).bind fun _ _ => (keeps_part _).bind fun _ _ => keeps_pure trivial
  · exact keeps_throw _

theorem keeps_body (i : Place) : Keeps AreProper Body.IsProper (body i) := by
  unfold body
  refine keeps_get.bind fun o _ => ?_
  dsimp only
  split
  · exact (keeps_entries i).map fun es hes => hes
  · refine (keeps_entries i).map fun es hes => ?_
    rw [Body.IsProper, List.map_map]
    exact hes
  · exact (keeps_mapM fun j _ => keeps_part j).map fun _ _ => trivial
  · exact (keeps_mapM fun j _ => keeps_pair j).map fun _ _ => trivial
  · exact (keeps_mapM fun j _ => keeps_pair j).map fun _ _ => trivial
  · exact keeps_throw _

theorem keeps_fill (fuel : Nat) : Keeps AreProper (fun _ => True) (fill fuel) := by
  induction fuel with
  | zero => exact keeps_pure trivial
  | succ fuel ih =>
    unfold fill
    refine keeps_get.bind fun o _ => ?_
    dsimp only
    split
    · exact keeps_pure trivial
    · -- One round fills all collections that wait; the induction is on the rounds after it.
      refine (keeps_modify fun o ho => ⟨ho.parts, ho.bodies⟩).bind fun _ _ => ?_
      refine (keeps_forIn (fun i _ _ => ?_) _).bind fun _ _ => ih
      refine (keeps_body i).bind fun b hb => ?_
      refine (keeps_modify fun o ho => ?_).bind fun _ _ => keeps_pure trivial
      exact ⟨ho.parts, ho.bodies.set i hb⟩

end Making

/-- What the collections of a document are filled with is proper. -/
theorem holds_objects {ns : Nodes} {root : Place} {p : Part} {bodies : Array (Option Body)}
    (h : ns.objects root = .ok (p, bodies)) : Holds Body.IsProper bodies := by
  obtain ⟨r, hr, h⟩ := bind_eq_ok_iff.mp h
  obtain ⟨rfl, rfl⟩ := Prod.mk.inj (Except.ok.inj h)
  have hmake : Keeps Objects.AreProper (fun _ => True) (do
      let p ← Making.part root
      Making.fill (ns.size + 1)
      return p) :=
    (Making.keeps_part root).bind fun _ _ =>
      (Making.keeps_fill (ns.size + 1)).bind fun _ _ => keeps_pure trivial
  exact (hmake _ r ⟨holds_replicate _, holds_replicate _⟩ hr).1.bodies

end FormPublisher.Yaml
