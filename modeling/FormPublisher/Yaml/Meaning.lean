import FormPublisher.Yaml.Object

/-!
# What texts mean

`Yaml.read` gives the value that a text denotes.  A collection that is a part of itself becomes a
knot, which has the place of its node for a label; so does every collection on the way from there
back to it, because that way may be entered at each of them.
-/

namespace FormPublisher.Yaml

/-- A value that has been put together: the labels of the collections around it to which it leads
back, and whether it leads back anywhere, be it inside itself. -/
structure Gathered where
  value : Value
  outer : List Nat := []
  isCyclic : Bool := false
  deriving Repr, Inhabited

/-- A step of putting values together; those that lead back nowhere are kept for the next alias. -/
abbrev Gathering := StateM (Array (Option Value))

/-- The collection made of parts. -/
def Gathered.collect (parts : List Gathered) (value : Value) : Gathered where
  value
  outer := parts.flatMap (·.outer)
  isCyclic := parts.any (·.isCyclic)

/-- A collection at a place: a label shows that it leads back to itself or further out. -/
def Gathered.close (place : Place) (g : Gathered) : Gathered where
  value := if g.outer.isEmpty then g.value else .knot place g.value
  outer := g.outer.filter (· ≠ place)
  isCyclic := g.isCyclic

/-- The kind of a collection. -/
def Body.kind : Body → Kind
  | list _ | pairs _ => .list
  | map _ => .map
  | set _ => .set

/-- Puts together the value of a part inside the collections at some places. -/
def gather (bodies : Array (Option Body)) : Nat → List Place → Part → Gathering Gathered
  | _, _, .atom a => return { value := .scalar a.scalar }
  | 0, _, .collection _ => return { value := .null }
  | fuel + 1, around, .collection i => do
    match bodies.getD i none, (← get).getD i none with
    | none, _ => return { value := .null }
    | some _, some v => return { value := v }
    | some body, none =>
      if around.contains i then
        return { value := .back i body.kind, outer := [i], isCyclic := true }
      else
        let inside := gather bodies fuel (i :: around)
        let g ← match body with
          | .list items => do
            let parts ← items.mapM inside
            pure (Gathered.collect parts (.list (parts.map (·.value))))
          | .pairs items => do
            let parts ← items.mapM fun p => do
              let first ← inside p.1
              let second ← inside p.2
              return Gathered.collect [first, second] (.pair first.value second.value)
            pure (Gathered.collect parts (.list (parts.map (·.value))))
          | .map entries => do
            let parts ← entries.mapM fun e => inside e.2
            let keys := entries.map fun e => e.1.scalar
            pure (Gathered.collect parts (.map (keys.zip (parts.map (·.value)))))
          | .set members => pure { value := .set (members.map (·.scalar)) }
        let g := g.close i
        unless g.isCyclic do modify fun kept => kept.setIfInBounds i (some g.value)
        return g

/-- The value that a document denotes. -/
def Composition.value (c : Composition) : Except Flaw Value := do
  match c.root with
  | none => return .null
  | some root =>
    let (part, bodies) ← c.nodes.objects root
    let kept := Array.replicate c.nodes.size none
    return ((gather bodies (c.nodes.size + 1) [] part).run kept).1.value

/-- The value that a text denotes; an empty text denotes nothing. -/
def read (s : String) : Except Flaw Value := do
  let c ← Composition.ofLexed (lex s)
  c.value

end FormPublisher.Yaml
