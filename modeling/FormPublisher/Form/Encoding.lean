import FormPublisher.Form.Condition
import FormPublisher.IdSupply

/-!
# Conditions in the provider's format

`Condition.encode` writes a condition the way the provider keeps it: its terms and its actions are
JSON texts, and each of them and the condition itself has an identifier.  Identifiers are drawn
condition by condition, for the terms, for the actions and last for the condition, unless it has one
of its own already.  Index and priority are the place of the condition in its list.
-/

namespace FormPublisher

/-- A computation that draws identifiers and may meet a value of the wrong kind. -/
abbrev Drawing := ExceptT Misuse (StateM IdSupply)

/-- A new identifier of a thing. -/
def newId (word : String) : Drawing String := do return identifier word (← IdSupply.draw)

/-- A condition in the provider's format. -/
structure EncodedCondition where
  id : Value
  index : Nat
  link : Link
  terms : String
  action : String
  deriving Repr, Inhabited

/-- A term in the provider's format. -/
def Term.encode (t : Term) (id : String) : Value :=
  .object [("id", .text id), ("field", .text t.field), ("operator", t.operator),
    ("value", .text t.value), ("isError", .bool false)]

/-- An action in the provider's format. -/
def Action.encode (a : Action) (id : String) : Value :=
  .object [("id", .text id), ("visibility", a.visibility), ("isError", .bool false),
    ("field", .text a.field)]

/-- The compact JSON text of a value. -/
def compactText (v : Value) : Drawing String := ExceptT.mk (pure (Json.write .compact v))

/-- The condition at an index of a list in the provider's format. -/
def Condition.encode (c : Condition) (index : Nat) : Drawing EncodedCondition := do
  let terms ← c.terms.mapM fun t => return t.encode (← newId "term")
  let actions ← c.actions.mapM fun a => return a.encode (← newId "action")
  let id ← match c.id.bind Value.present? with
    | some id => pure id
    | none => Value.text <$> newId "condition"
  return {
    id
    index
    link := c.link
    terms := ← compactText (.list terms)
    action := ← compactText (.list actions) }

/-- The conditions from an index on in the provider's format. -/
def encodeFrom (index : Nat) : List Condition → Drawing (List EncodedCondition)
  | [] => return []
  | c :: cs => do
    let first ← c.encode index
    let rest ← encodeFrom (index + 1) cs
    return first :: rest

/-- A list of conditions in the provider's format. -/
def encodeConditions (cs : List Condition) : Drawing (List EncodedCondition) := encodeFrom 0 cs

/-- The object that is sent for a condition. -/
def EncodedCondition.toValue (e : EncodedCondition) : Value :=
  .object [("id", e.id), ("index", .text (toString e.index)), ("link", .text e.link.name),
    ("priority", .text (toString e.index)), ("type", .text "field"), ("terms", .text e.terms),
    ("action", .text e.action)]

end FormPublisher
