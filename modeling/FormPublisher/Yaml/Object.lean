import FormPublisher.Yaml.Literal
import FormPublisher.Yaml.Merge

/-!
# Objects

The values of nodes before they are put together.  The value of a scalar is made at once.  A
collection is at first no more than the place of its node; it is filled later, when all collections
found before it have been filled.  So a collection may be a part of itself, and of several flaws in
a text the one that counts lies on the outermost level, and of those on one level it is the first.

A node has one object, however many aliases it has.  Only for one kind of scalar this shows: two
numbers that are no number are the same key if they are one object.
-/

namespace FormPublisher.Yaml

/-! ### Parts -/

/-- The object of a scalar, and where it comes from, which tells apart numbers that are no number.
-/
structure Atom where
  scalar : Scalar
  origin : Nat := 0
  deriving DecidableEq, Repr, Inhabited

/-- Whether two atoms are one and the same key. -/
def Atom.sameKey (a b : Atom) : Bool :=
  a.scalar.sameKey b.scalar ||
    (a.scalar == .float .nan && b.scalar == .float .nan && a.origin == b.origin)

/-- The object of a node: an atom, or the collection at its place. -/
inductive Part where
  | atom (a : Atom)
  | collection (place : Place)
  deriving DecidableEq, Repr, Inhabited

/-- What a collection is filled with. -/
inductive Body where
  | list (items : List Part)
  | pairs (items : List (Part × Part))
  | map (entries : List (Atom × Part))
  | set (members : List Atom)
  deriving DecidableEq, Repr, Inhabited

/-- The entries of a mapping with one more: a key that is there keeps its place. -/
def putPart (key : Atom) (value : Part) : List (Atom × Part) → List (Atom × Part)
  | [] => [(key, value)]
  | (k, v) :: es => if k.sameKey key then (k, value) :: es else (k, v) :: putPart key value es

/-! ### Scalars -/

/-- The code points of a scalar, or of the value under the key `=` of a mapping, and so on for so
many steps. -/
def Nodes.pointsWithin (ns : Nodes) : Nat → Place → Except Flaw (List Nat)
  | 0, _ => .error (.literal .endless)
  | fuel + 1, i =>
    match (ns.node i).content with
    | .scalar points => .ok points
    | .sequence _ => .error .malformed
    | .mapping entries =>
      match entries.find? fun e => ns.tag e.1 = .value with
      | some e => ns.pointsWithin fuel e.2
      | none => .error .malformed

/-- The code points of a node; after as many steps as there are nodes it leads back to itself. -/
def Nodes.points (ns : Nodes) (i : Place) : Except Flaw (List Nat) :=
  ns.pointsWithin (ns.size + 1) i

/-- Whether a text names the number that is no number by its usual word; this number is one object.
-/
def isUsualNan (cs : List Char) : Bool := dropSign (decimalText cs) == ".nan".toList

/-- The atom of a node whose type is that of a scalar. -/
def Nodes.atom (ns : Nodes) (i : Place) : Except Flaw Atom := do
  let n := ns.node i
  let points ← ns.points i
  match n.tag, n.content with
  | .timestamp, .mapping _ => throw (.literal (.notText .list))
  | .text, _ => return { scalar := .ofPoints points }
  | t, _ =>
    let s := Text.ofPoints points
    let scalar ← t.read s
    return { scalar, origin := if isUsualNan s.toList then 0 else i + 1 }

/-! ### Filling -/

/-- The objects of a document on the way to be made: the part of every node that has been met, what
the collections have been filled with, and, in reverse, those that have not been filled yet. -/
structure Objects where
  nodes : Nodes
  parts : Array (Option Part)
  bodies : Array (Option Body)
  waiting : List Place := []
  deriving Repr, Inhabited

/-- A step of making objects. -/
abbrev Making := StateT Objects (Except Flaw)

namespace Making

/-- The object of a node; a collection that is met for the first time has to be filled. -/
def part (i : Place) : Making Part := do
  let o ← get
  match o.parts.getD i none with
  | some p => return p
  | none =>
    if (o.nodes.tag i).isScalar then
      let p := Part.atom (← o.nodes.atom i)
      modify fun o => { o with parts := o.parts.setIfInBounds i (some p) }
      return p
    else if (o.nodes.tag i).isCollection then
      modify fun o =>
        { o with
          parts := o.parts.setIfInBounds i (some (.collection i))
          waiting := i :: o.waiting }
      return .collection i
    else throw .malformed

/-- The object of a node that is a key, which is no collection. -/
def key (i : Place) : Making Atom := do
  match ← part i with
  | .atom a => return a
  | .collection _ => throw .malformed

/-- The entries of the mapping at a place. -/
def entries (i : Place) : Making (List (Atom × Part)) := do
  let o ← get
  match (o.nodes.node i).content with
  | .mapping _ => do
    let nodes ← o.nodes.flatten i
    set { o with nodes }
    (nodes.entries i).foldlM (fun es e => do
      let k ← key e.1
      let v ← part e.2
      return putPart k v es) []
  | _ => throw .malformed

/-- The pair that a mapping of one entry makes. -/
def pair (i : Place) : Making (Part × Part) := do
  match ((← get).nodes.node i).content with
  | .mapping [e] => do
    let first ← part e.1
    let second ← part e.2
    return (first, second)
  | _ => throw .malformed

/-- What the collection at a place is filled with; its content must suit its type. -/
def body (i : Place) : Making Body := do
  let n := (← get).nodes.node i
  match n.tag, n.content with
  | .mapping, _ => .map <$> entries i
  | .set, _ => (fun es => .set (es.map Prod.fst)) <$> entries i
  | .sequence, .sequence items => .list <$> items.mapM part
  | .orderedMapping, .sequence items | .pairs, .sequence items => .pairs <$> items.mapM pair
  | _, _ => throw .malformed

/-- Fills the collections that wait, then those that were found meanwhile, and so on for so many
rounds. -/
def fill : Nat → Making Unit
  | 0 => return
  | fuel + 1 => do
    let waiting := (← get).waiting.reverse
    unless waiting.isEmpty do
      modify fun o => { o with waiting := [] }
      for i in waiting do
        let b ← body i
        modify fun o => { o with bodies := o.bodies.setIfInBounds i (some b) }
      fill fuel

end Making

/-- The object of the outermost node, and what the collections of the document are filled with. -/
def Nodes.objects (ns : Nodes) (root : Place) : Except Flaw (Part × Array (Option Body)) := do
  let make : Making Part := do
    let p ← Making.part root
    Making.fill (ns.size + 1)
    return p
  let (p, o) ← make.run
    { nodes := ns, parts := .replicate ns.size none, bodies := .replicate ns.size none }
  return (p, o.bodies)

end FormPublisher.Yaml
