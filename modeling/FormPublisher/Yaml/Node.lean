import FormPublisher.Yaml.Schema
import FormPublisher.Yaml.Token

/-!
# Nodes

A `Node` is a scalar, a sequence or a mapping with its type.  Nodes refer to their parts by the
places that these have among all nodes of a document, because an alias stands for the very node of
its anchor, which lies before it or around it.  An anchor may be used for one node only.

`Composition.ofLexed` reads the one document that a text may hold from its tokens.  Where the
grammar lets a node be left out, there is an empty plain scalar.  The tokens are asked for one by
one, so that a flaw behind them counts only once they are used up.
-/

namespace FormPublisher.Yaml

/-- Where a node stands among the nodes of a document. -/
abbrev Place := Nat

/-- What a node is made of; a scalar is given by its code points. -/
inductive Content where
  | scalar (points : List Nat)
  | sequence (items : List Place)
  | mapping (entries : List (Place × Place))
  deriving DecidableEq, Repr, Inhabited

/-- A node. -/
structure Node where
  tag : Tag
  content : Content
  deriving DecidableEq, Repr, Inhabited

/-- The nodes of a document. -/
abbrev Nodes := Array Node

/-- The document in a text: its nodes, and the place of the outermost if there is one. -/
structure Composition where
  nodes : Nodes
  root : Option Place
  deriving DecidableEq, Repr, Inhabited

/-- The tokens still to be read and what is wrong behind them, the number of collections around
them, the tag handles, the nodes and the anchors so far. -/
structure Reader where
  tokens : List Token
  flaw : Option Flaw := none
  depth : Nat := 0
  handles : TagHandles := .standard
  nodes : Nodes := #[]
  anchors : List (String × Place) := []
  deriving Repr, Inhabited

/-- A step of reading. -/
abbrev Read := StateT Reader (Except Flaw)

namespace Read

/-! ### Tokens -/

/-- What is wrong where a token cannot stand. -/
def unexpected {α : Type} : Read α := throw .malformed

/-- The next token, or none at the end of the text. -/
def peek : Read (Option Token) := do
  let r ← get
  match r.tokens.head?, r.flaw with
  | none, some flaw => throw flaw
  | t, _ => return t

/-- Goes past the next token. -/
def advance : Read Unit := modify fun r => { r with tokens := r.tokens.tail }

/-- Whether the next token is one of a list; the end of the text is in none. -/
def isAt (ts : List Token) : Read Bool := return (← peek).any ts.contains

/-- Goes past the next token if it is the one given, and tells whether it was. -/
def accept (t : Token) : Read Bool := do
  if ← isAt [t] then
    advance
    return true
  else return false

/-- Goes past the next token, which must be the one given. -/
def expect (t : Token) : Read Unit := do
  unless ← accept t do unexpected

/-! ### Properties -/

/-- The name of an anchor, if there is one next. -/
def anchor? : Read (Option String) := do
  match ← peek with
  | some (.anchor name) => do advance; return some name
  | _ => return none

/-- The tag, if there is one next. -/
def tag? : Read (Option TagSpelling) := do
  match ← peek with
  | some (.tag t) => do advance; return some t
  | _ => return none

/-- The anchor and the tag of a node, in either order. -/
def properties : Read (Option String × Option TagSpelling) := do
  match ← anchor? with
  | some name => return (some name, ← tag?)
  | none =>
    let t ← tag?
    match t with
    | some _ => return (← anchor?, t)
    | none => return (none, none)

/-- The full name of a tag, or none for the type that the content suggests. -/
def resolve (t : TagSpelling) : Read (Option String) := do
  match t.resolve? (← get).handles with
  | some uri => return uri
  | none => throw .malformed

/-! ### Places -/

/-- The place of the node of an alias. -/
def aliased (name : String) : Read Place := do
  match (← get).anchors.lookup name with
  | some place => return place
  | none => throw .malformed

/-- Puts a node at a new place, which may have an anchor. -/
def addNode (name : Option String) (n : Node) : Read Place := do
  let r ← get
  match name with
  | none => pure ()
  | some name => if (r.anchors.lookup name).isSome then throw .malformed
  let place := r.nodes.size
  set { r with
    nodes := r.nodes.push n
    anchors := (name.map fun name => (name, place)).toList ++ r.anchors }
  return place

/-- Puts the node that is left out at a new place. -/
def addOmitted : Read Place := addNode none { tag := .null, content := .scalar [] }

/-- Collections stand inside fewer others than this. -/
def depthLimit : Nat := 488

/-- Reads a collection.  It has its place before its parts are read, so that they can refer to it.
-/
def addCollection (name : Option String) (tag : Tag) (read : Read Content) : Read Place := do
  let depth := (← get).depth
  if depthLimit ≤ depth then throw (.literal .endless)
  let place ← addNode name { tag, content := .sequence [] }
  modify fun r => { r with depth := depth + 1 }
  let content ← read
  modify fun r =>
    { r with depth, nodes := r.nodes.setIfInBounds place { tag, content } }
  return place

/-! ### Nodes -/

/-- The type of a scalar: the one it declares, the one its text suggests if it is plain or asks for
that, or text. -/
def scalarTag (plain : Bool) (declared : Option (Option String)) (s : String) : Tag :=
  match declared with
  | some (some uri) => .ofUri uri
  | some none => suggestedTag s
  | none => if plain then suggestedTag s else .text

/-- The type of a collection: the one it declares, or the usual one. -/
def collectionTag (usual : Tag) (declared : Option (Option String)) : Tag :=
  (declared.join.map Tag.ofUri).getD usual

mutual

/-- Reads a node.  Block collections may stand in a `block` only, and a sequence that is not
indented only where a mapping asks for a key or a value. -/
def node (block unindented : Bool) : Nat → Read Place
  | 0 => throw .malformed
  | fuel + 1 => do
    match ← peek with
    | some (.alias name) => do advance; aliased name
    | _ =>
      let (name, spelling) ← properties
      let declared ← spelling.mapM resolve
      let sequence (items : Read (List Place)) : Read Place :=
        addCollection name (collectionTag .sequence declared) (.sequence <$> items)
      let mapping (entries : Read (List (Place × Place))) : Read Place :=
        addCollection name (collectionTag .mapping declared) (.mapping <$> entries)
      if unindented && (← isAt [.blockEntry]) then sequence (unindentedItems fuel)
      else
        match ← peek with
        | some (.scalar plain points) =>
          advance
          let tag := scalarTag plain declared (Text.ofPoints points)
          addNode name { tag, content := .scalar points }
        | some .flowSequence => sequence do advance; flowItems true fuel
        | some .flowMapping => mapping do advance; flowEntries true fuel
        | some .blockSequence =>
          if block then sequence do advance; blockItems fuel else unexpected
        | some .blockMapping =>
          if block then mapping do advance; blockEntries fuel else unexpected
        | _ =>
          if name.isSome || spelling.isSome then
            addNode name { tag := scalarTag true declared "", content := .scalar [] }
          else unexpected

/-- Reads a node that is left out before certain tokens. -/
def nodeUnless (ends : List Token) (block unindented : Bool) : Nat → Read Place
  | 0 => throw .malformed
  | fuel + 1 => do
    if ← isAt ends then addOmitted else node block unindented fuel

/-- Reads the items of a block sequence and its end. -/
def blockItems : Nat → Read (List Place)
  | 0 => throw .malformed
  | fuel + 1 => do
    if ← accept .blockEntry then
      let item ← nodeUnless [.blockEntry, .blockEnd] true false fuel
      return item :: (← blockItems fuel)
    else
      expect .blockEnd
      return []

/-- Reads the items of a sequence that is not indented. -/
def unindentedItems : Nat → Read (List Place)
  | 0 => throw .malformed
  | fuel + 1 => do
    if ← accept .blockEntry then
      let item ← nodeUnless [.blockEntry, .key, .value, .blockEnd] true false fuel
      return item :: (← unindentedItems fuel)
    else return []

/-- Reads the value of a key, which is left out without its indicator or before certain tokens. -/
def entryValue (ends : List Token) (block unindented : Bool) : Nat → Read Place
  | 0 => throw .malformed
  | fuel + 1 => do
    if ← accept .value then nodeUnless ends block unindented fuel else addOmitted

/-- Reads the entries of a block mapping and its end. -/
def blockEntries : Nat → Read (List (Place × Place))
  | 0 => throw .malformed
  | fuel + 1 => do
    if ← accept .key then
      let key ← nodeUnless [.key, .value, .blockEnd] true true fuel
      let value ← entryValue [.key, .value, .blockEnd] true true fuel
      return (key, value) :: (← blockEntries fuel)
    else
      expect .blockEnd
      return []

/-- Reads the items of a flow sequence and its end; an item may be an entry, which makes a mapping
of its own. -/
def flowItems (first : Bool) : Nat → Read (List Place)
  | 0 => throw .malformed
  | fuel + 1 => do
    if ← accept .flowSequenceEnd then return []
    unless first do expect .flowEntry
    if ← accept .key then
      let item ← addCollection none .mapping do
        let key ← nodeUnless [.value, .flowEntry, .flowSequenceEnd] false false fuel
        let value ← entryValue [.flowEntry, .flowSequenceEnd] false false fuel
        return .mapping [(key, value)]
      return item :: (← flowItems false fuel)
    else if ← accept .flowSequenceEnd then return []
    else
      let item ← node false false fuel
      return item :: (← flowItems false fuel)

/-- Reads the entries of a flow mapping and its end; an entry may be a key alone. -/
def flowEntries (first : Bool) : Nat → Read (List (Place × Place))
  | 0 => throw .malformed
  | fuel + 1 => do
    if ← accept .flowMappingEnd then return []
    unless first do expect .flowEntry
    if ← accept .key then
      let key ← nodeUnless [.value, .flowEntry, .flowMappingEnd] false false fuel
      let value ← entryValue [.flowEntry, .flowMappingEnd] false false fuel
      return (key, value) :: (← flowEntries false fuel)
    else if ← accept .flowMappingEnd then return []
    else
      let key ← node false false fuel
      let value ← addOmitted
      return (key, value) :: (← flowEntries false fuel)

end

/-! ### Documents -/

/-- Reads the directives in front of a document, behind those that gave a version or defined
handles, and tells the handles of the document: those defined and the standard ones.  A handle may
be defined once, and so may the version, of which the first number must be one. -/
def directives (versioned : Bool) (defined : TagHandles) : Nat → Read TagHandles
  | 0 => throw .malformed
  | fuel + 1 => do
    match ← peek with
    | some (.directive d) =>
      advance
      match d with
      | .version major _ =>
        if versioned || major != 1 then throw .malformed
        directives true defined fuel
      | .handle name uri =>
        if (defined.lookup name).isSome then throw .malformed
        directives versioned ((name, uri) :: defined) fuel
      | .reserved => directives versioned defined fuel
    | _ => return defined ++ .standard

/-- Whether a token cannot stand in a document, or is the end of the text. -/
def endsDocument : Option Token → Bool
  | none | some (.directive _) | some .documentStart | some .documentEnd => true
  | _ => false

/-- Reads the node of a document that may have a start of its own, before which its directives
stand; there is none at the end of the text. -/
def document? (fuel : Nat) : Read (Option Place) := do
  match ← peek with
  | none => return none
  | some (.directive _) | some .documentStart => do
    let handles ← directives false [] fuel
    modify fun r => { r with handles }
    expect .documentStart
    if endsDocument (← peek) then some <$> addOmitted else some <$> node true false fuel
  | some _ => some <$> node true false fuel

/-- Goes past the ends of a document. -/
def skipEnds : Nat → Read Unit
  | 0 => throw .malformed
  | fuel + 1 => do
    if ← accept .documentEnd then skipEnds fuel

/-- Reads the end of the text, before which a document may have ends of its own.  The start of
another document is read before it is refused. -/
def finish (fuel : Nat) : Read Unit := do
  skipEnds fuel
  if (← peek).isSome then
    discard (directives false [] fuel)
    discard peek
    unexpected

end Read

/-- The document of a text that is cut into tokens. -/
def Composition.ofLexed (l : Lexed) : Except Flaw Composition := do
  let fuel := 4 * l.tokens.length + 4
  let read : Read (Option Place) := do
    let root ← Read.document? fuel
    if root.isSome then Read.finish fuel
    return root
  let (root, r) ← read.run { tokens := l.tokens, flaw := l.flaw }
  return { nodes := r.nodes, root }

end FormPublisher.Yaml
