import FormPublisher.Yaml.Node

/-!
# Merge keys

An entry with a merge key stands for the entries of the mapping that is its value, or of the
mappings in the sequence that is its value, those of the last one first.  They come before the other
entries of their mapping, so that a key which the mapping has itself takes its own value.  The key
`=` of a mapping is an ordinary text.

`Nodes.flatten` brings in the entries for one mapping, and for those that they come from.  It
changes the nodes, so an alias of one of them sees the change.
-/

namespace FormPublisher.Yaml

namespace Nodes

/-- The node at a place. -/
def node (ns : Nodes) (i : Place) : Node := ns.getD i default

/-- The type of the node at a place. -/
def tag (ns : Nodes) (i : Place) : Tag := (ns.node i).tag

/-- The entries of the mapping at a place; other nodes have none. -/
def entries (ns : Nodes) (i : Place) : List (Place × Place) :=
  match (ns.node i).content with
  | .mapping entries => entries
  | _ => []

/-- The nodes with other entries for the mapping at a place. -/
def setEntries (ns : Nodes) (i : Place) (entries : List (Place × Place)) : Nodes :=
  ns.modify i fun n => { n with content := .mapping entries }

/-- The nodes with a text in the place of every key `=` of some entries. -/
def plainKeys (ns : Nodes) (entries : List (Place × Place)) : Nodes :=
  entries.foldl
    (fun ns e => ns.modify e.1 fun n => if n.tag = .value then { n with tag := .text } else n) ns

/-- The value of the first merge key of some entries, and the other entries. -/
def splitMerge? (ns : Nodes) :
    List (Place × Place) → Option (Place × List (Place × Place))
  | [] => none
  | e :: es =>
    if ns.tag e.1 = .merge then some (e.2, es)
    else (ns.splitMerge? es).map fun r => (r.1, e :: r.2)

/-- The number of merge keys. -/
def countMerges (ns : Nodes) : Nat :=
  ns.foldl (fun n node =>
    match node.content with
    | .mapping entries => n + (entries.filter fun e => ns.tag e.1 = .merge).length
    | _ => n) 0

/-- A merge key is split off only if there is one. -/
theorem splitMerge?_eq_none_iff (ns : Nodes) (es : List (Place × Place)) :
    ns.splitMerge? es = none ↔ ∀ e ∈ es, ns.tag e.1 ≠ .merge := by
  induction es with
  | nil => simp [splitMerge?]
  | cons e es ih =>
    by_cases h : ns.tag e.1 = .merge
    · simp [splitMerge?, h]
    · simp [splitMerge?, h, ih]

end Nodes

/-- A step that changes nodes. -/
abbrev Rewriting := StateT Nodes (Except Flaw)

namespace Nodes

/-- Brings the entries for the merge keys of a mapping in front of its others.  One merge key is
taken away before the mapping of its value is looked at, so their number bounds the steps, and a
mapping that is merged into itself brings in what is left of it. -/
def flattenWithin : Nat → Place → Rewriting Unit
  | 0, _ => throw .malformed
  | fuel + 1, i => do
    let ns ← get
    match ns.splitMerge? (ns.entries i) with
    | none => set (ns.plainKeys (ns.entries i))
    | some (source, others) => do
      set (ns.setEntries i others)
      let merged ←
        match (ns.node source).content with
        | .scalar _ => throw .malformed
        | .mapping _ => do
          flattenWithin fuel source
          pure ((← get).entries source)
        | .sequence items => do
          let parts ← items.mapM fun j => do
            match ((← get).node j).content with
            | .mapping _ => do
              flattenWithin fuel j
              return (← get).entries j
            | _ => throw .malformed
          pure parts.reverse.flatten
      flattenWithin fuel i
      modify fun ns => ns.setEntries i (merged ++ ns.entries i)

/-- The nodes with the entries for the merge keys of a mapping. -/
def flatten (ns : Nodes) (i : Place) : Except Flaw Nodes :=
  Prod.snd <$> (flattenWithin (ns.countMerges + 1) i).run ns

end Nodes

end FormPublisher.Yaml
