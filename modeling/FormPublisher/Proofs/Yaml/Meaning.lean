import FormPublisher.Proofs.Yaml.Object
import FormPublisher.Yaml.Meaning

/-!
# Values of texts

Whatever a text is read as is proper (`isProper_of_read`).  A mapping has the keys that its object
was filled with, in all places where an alias stands for it.
-/

namespace FormPublisher.Yaml

/-! ### Putting together -/

/-- A step of putting values together leaves nothing but proper values for the aliases, and what it
gives has a property. -/
def Gathers {α : Type} (P : α → Prop) (x : Gathering α) : Prop :=
  ∀ kept, Holds Value.IsProper kept →
    Holds Value.IsProper (x.run kept).2 ∧ P (x.run kept).1

section Gathers

variable {α β : Type} {P : α → Prop} {Q : β → Prop}

theorem gathers_pure {a : α} (ha : P a) : Gathers P (pure a) := fun _ hkept => ⟨hkept, ha⟩

theorem gathers_get : Gathers (Holds Value.IsProper) get := fun _ hkept => ⟨hkept, hkept⟩

theorem gathers_modify {f : Array (Option Value) → Array (Option Value)}
    (hf : ∀ kept, Holds Value.IsProper kept → Holds Value.IsProper (f kept)) :
    Gathers (fun _ => True) (modify f : Gathering PUnit) := fun kept hkept =>
  ⟨hf kept hkept, trivial⟩

theorem Gathers.bind {x : Gathering α} {f : α → Gathering β} (hx : Gathers P x)
    (hf : ∀ a, P a → Gathers Q (f a)) : Gathers Q (x >>= f) := fun kept hkept =>
  have hx := hx kept hkept
  hf _ hx.2 _ hx.1

theorem gathers_mapM {f : β → Gathering α} {xs : List β} (h : ∀ x ∈ xs, Gathers P (f x)) :
    Gathers (fun ys => ∀ y ∈ ys, P y) (xs.mapM f) := by
  induction xs with
  | nil => exact gathers_pure (List.forall_mem_nil _)
  | cons x xs ih =>
    obtain ⟨hx, hxs⟩ := List.forall_mem_cons.mp h
    rw [List.mapM_cons]
    exact hx.bind fun y hy => (ih hxs).bind fun ys hys =>
      gathers_pure (List.forall_mem_cons.mpr ⟨hy, hys⟩)

end Gathers

/-- A value that was put together is proper. -/
def Gathered.IsProper (g : Gathered) : Prop := g.value.IsProper

theorem Gathered.IsProper.close {g : Gathered} (hg : g.IsProper) (place : Place) :
    (g.close place).IsProper := by
  unfold IsProper Gathered.close
  dsimp only
  split <;> exact hg

section Collect

variable {parts : List Gathered}

theorem isProper_collect_list (hparts : ∀ g ∈ parts, g.IsProper) :
    (Gathered.collect parts (.list (parts.map fun g => g.value))).IsProper :=
  areProper_iff.mpr (List.forall_mem_map.mpr hparts)

/-- The entries of a mapping have the keys that it was filled with. -/
theorem isProper_collect_map {es : List (Atom × Part)} (hes : AreProperKeys (keysOf es))
    (hparts : ∀ g ∈ parts, g.IsProper) :
    (Gathered.collect parts
      (.map ((keysOf es).zip (parts.map fun g => g.value)))).IsProper := by
  -- Keys without a value would be left out, and what is left of proper keys is proper.
  refine ⟨hes.sublist ?_, areProperEntries_iff.mpr fun e he => ?_⟩
  · rw [Entries.keys, List.zip_eq_zip_take_min, List.map_fst_zip (by simp)]
    exact List.take_sublist _ _
  · obtain ⟨g, hg, hvalue⟩ := List.mem_map.mp (List.of_mem_zip he).2
    exact hvalue ▸ hparts g hg

end Collect

/-- A collection that was put together is kept for the aliases unless it leads back. -/
theorem gathers_close {g : Gathered} (hg : g.IsProper) (i : Place) :
    Gathers Gathered.IsProper (do
      let g := g.close i
      unless g.isCyclic do modify fun kept => kept.setIfInBounds i (some g.value)
      return g) := by
  have hclose := hg.close i
  dsimp only
  split
  · exact gathers_pure hclose
  · exact (gathers_modify fun kept hkept => hkept.set i hclose).bind fun _ _ => gathers_pure hclose

/-- Putting the value of a part together makes a proper value. -/
theorem gathers_gather {bodies : Array (Option Body)} (hbodies : Holds Body.IsProper bodies)
    (fuel : Nat) (around : List Place) (p : Part) :
    Gathers Gathered.IsProper (gather bodies fuel around p) := by
  -- The parts of a collection are put together with less fuel, inside one collection more.
  induction fuel generalizing around p with
  | zero => cases p <;> exact gathers_pure trivial
  | succ fuel ih =>
    cases p with
    | atom a => exact gathers_pure trivial
    | collection i =>
      unfold gather
      refine gathers_get.bind fun kept hkept => ?_
      split
      · exact gathers_pure trivial
      case h_2 hv => exact gathers_pure (hkept i _ hv)
      case h_3 body hbody _ =>
        have hproper := hbodies i body hbody
        split
        · exact gathers_pure trivial
        · dsimp only
          split
          case h_1 items =>
            exact (gathers_mapM fun q _ => ih (i :: around) q).bind fun parts hparts =>
              (gathers_pure (isProper_collect_list hparts)).bind fun g hg => gathers_close hg i
          case h_2 items =>
            have hpair : ∀ q ∈ items, Gathers Gathered.IsProper (do
                let first ← gather bodies fuel (i :: around) q.1
                let second ← gather bodies fuel (i :: around) q.2
                return Gathered.collect [first, second] (.pair first.value second.value)) :=
              fun q _ => (ih _ q.1).bind fun first hfirst => (ih _ q.2).bind fun second hsecond =>
                gathers_pure ⟨hfirst, hsecond⟩
            exact (gathers_mapM hpair).bind fun parts hparts =>
              (gathers_pure (isProper_collect_list hparts)).bind fun g hg => gathers_close hg i
          case h_3 es =>
            exact (gathers_mapM fun e _ => ih (i :: around) e.2).bind fun parts hparts =>
              (gathers_pure (isProper_collect_map hproper hparts)).bind fun g hg =>
                gathers_close hg i
          case h_4 members =>
            have hset : Gathered.IsProper { value := .set (members.map fun a => a.scalar) } :=
              hproper
            exact (gathers_pure hset).bind fun g hg => gathers_close hg i

/-- Whatever a text is read as is proper. -/
theorem isProper_of_read {s : String} {v : Value} (h : read s = .ok v) : v.IsProper := by
  obtain ⟨c, -, h⟩ := bind_eq_ok_iff.mp h
  unfold Composition.value at h
  split at h
  · obtain rfl := Except.ok.inj h
    trivial
  case h_2 root _ =>
    obtain ⟨⟨part, bodies⟩, hobjects, h⟩ := bind_eq_ok_iff.mp h
    obtain rfl := Except.ok.inj h
    exact (gathers_gather (holds_objects hobjects) _ [] part _ (holds_replicate _)).2

end FormPublisher.Yaml
