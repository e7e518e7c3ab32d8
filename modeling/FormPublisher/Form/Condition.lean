import FormPublisher.Form.Layout

/-!
# Visibility conditions

A `Condition` shows or hides fields by the answers to others.  Its terms test fields and its actions
act on them; both name a field by its position.  The link says whether all terms must hold or any.

`Condition.read` reads a condition from a value.  `Condition.derive` makes the one condition that a
document can ask for: the first legal text and the personal questions are shown once every
eligibility question is answered with yes.  It takes the positions from the questions themselves, in
the order of their numbers.
-/

namespace FormPublisher

/-- How the terms of a condition are joined. -/
inductive Link where
  | all
  | any
  deriving DecidableEq, Repr, Inhabited

/-- The name of a link. -/
def Link.name : Link → String
  | all => "All"
  | any => "Any"

/-- The link that a value names. -/
def Link.read (v : Value) : Except Rejection Link :=
  match v with
  | .scalar (.text "All") => .ok .all
  | .scalar (.text "Any") => .ok .any
  | _ => .error .unknownLink

/-- A test of a field. -/
structure Term where
  field : String
  operator : Value
  value : String
  deriving Repr, Inhabited

/-- What is done to a field. -/
structure Action where
  field : String
  visibility : Value
  deriving Repr, Inhabited

/-- A rule that shows or hides fields. -/
structure Condition where
  terms : List Term
  actions : List Action
  link : Link := .all
  id : Option Value := none
  deriving Repr, Inhabited

/-! ### Reading -/

/-- A term; its value may be left out. -/
def Term.read (e : Entries) : Except Fault Term := do
  let field ← (← e.require "field" "terms").render
  let operator ← e.require "operator" "terms"
  return { field, operator, value := ← (e.getText "value").render }

/-- An action. -/
def Action.read (e : Entries) : Except Fault Action := do
  let field ← (← e.require "field" "actions").render
  let visibility ← e.require "visibility" "actions"
  return { field, visibility }

/-- The condition in the entries of an object: the link is looked at before the terms, and the terms
before the actions. -/
def Condition.ofEntries (data : Entries) : Except Fault Condition := do
  let link ← Link.read (data.get "link")
  let terms ← (← data.entriesAt "terms").mapM Term.read
  let actions ← (← data.entriesAt "actions").mapM Action.read
  return { terms, actions, link, id := data.present? "id" }

/-- The condition in a value. -/
def Condition.read (v : Value) : Except Fault Condition :=
  match v.opened with
  | .map data => Condition.ofEntries data
  | _ => .error (.rejected .conditionNotObject)

/-! ### Deriving -/

/-- The test that the question at a position is answered with yes. -/
def Term.affirmed (position : Int) : Term where
  field := toString position
  operator := .text "equals"
  value := "Yes"

/-- The showing of the question at a position. -/
def Action.reveal (position : Int) : Action where
  field := toString position
  visibility := .text "Show"

/-- The positions of the questions that depend on eligibility, in ascending order. -/
def gatedPositions (questions : List Question) : List Int :=
  (Question.positionsOf .firstLegal questions ++ Question.positionsOf .personal questions).mergeSort
    fun a b => decide (a ≤ b)

/-- The conditions of a form: one at most, and none if there is nothing to test or to show. -/
def Condition.derive (visibility : Visibility) (questions : List Question) : List Condition :=
  let tested := Question.positionsOf .eligibility questions
  let gated := gatedPositions questions
  if visibility.gatesPersonalInfo && !tested.isEmpty && !gated.isEmpty then
    [{ terms := tested.map Term.affirmed, actions := gated.map Action.reveal }]
  else []

/-! ### Compiled forms -/

/-- The questions of a form and the conditions on them. -/
structure CompiledForm where
  questions : List Question
  conditions : List Condition := []
  deriving Repr, Inhabited

/-- The form that a document describes.  The log names the title, so it must have a text. -/
def Document.compile (d : Document) : Except Misuse CompiledForm := do
  let questions ← d.questions
  discard (renderOptional d.title)
  return { questions, conditions := Condition.derive d.visibility questions }

end FormPublisher
