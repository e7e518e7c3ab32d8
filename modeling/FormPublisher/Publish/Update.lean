import FormPublisher.Publish.Publisher
import FormPublisher.Request.Update

/-!
# Updating forms

`Publisher.updateForm` carries out a request to change a form.  The checks come in a fixed order:
the key, the number of the form, the kind of change, and last the part of the request that this kind
needs.  Only then is the provider asked.

Changes to questions are made one after another.  A change that fails does not undo those before it;
it is noted, and the others are still made, unless the publisher stops at the first failure.
Questions to be added go out together in one call at the end.
-/

namespace FormPublisher

/-! ### Outcomes -/

/-- What an update did. -/
inductive UpdateMessage where
  | properties
  | questions
  | newQuestions
  | conditions
  deriving DecidableEq, Repr, Inhabited

/-- What an update did in words. -/
def UpdateMessage.text : UpdateMessage → String
  | properties => "Form properties updated successfully"
  | questions => "Questions updated successfully"
  | newQuestions => "Form questions updated successfully"
  | conditions => "Form conditions updated successfully"

/-- An update that was carried out. -/
structure Updated where
  message : UpdateMessage
  data : Value
  deriving Repr, Inhabited

/-- What can be done to a question. -/
inductive StepAction where
  | delete
  | update
  deriving DecidableEq, Repr, Inhabited

/-- The name of an action. -/
def StepAction.name : StepAction → String
  | delete => "delete"
  | update => "update"

/-- A change to a question that was tried. -/
structure Step where
  action : StepAction
  question : String
  failure : Option ProviderError := none
  deriving DecidableEq, Repr, Inhabited

namespace Step

/-- Whether a change was made. -/
def succeeded (s : Step) : Bool := s.failure.isNone

/-- Why a change failed: the text that the provider sent, or what was tried if it sent none. -/
def errorText (e : ProviderError) : String := (e.body.filter (· ≠ "")).getD e.message

/-- The report on a change. -/
def toValue (s : Step) : Value :=
  .object [("action", .text s.action.name), ("questionId", .text s.question),
    ("success", .bool s.succeeded),
    ("statusCode", ((s.failure.bind (·.status)).map .int).getD .null),
    ("error", Value.ofText? (s.failure.map errorText))]

end Step

/-- The report on changes to questions, with what the provider said to the questions added. -/
def reportSteps (steps : List Step) (added : Option Value) : Value :=
  .object ([("steps", .list (steps.map Step.toValue)),
    ("failedSteps", .list ((steps.filter fun s => !s.succeeded).map Step.toValue))] ++
    (added.map fun v => ("result", v)).toList)

/-! ### Carrying out -/

/-- What is asked of the provider for a change to a question: to delete it, or to change it if there
is anything to change; every other change asks for nothing, but the log names its action, which must
have a text. -/
def QuestionUpdate.request? (form : String) (u : QuestionUpdate) :
    Except Misuse (Option (StepAction × Request)) :=
  match u.action with
  | .scalar (.text "delete") => .ok (some (.delete, .deleteQuestion form u.question))
  | .scalar (.text "update") =>
    if u.data.isTruthy then do
      let fields ← u.data.formFields "question"
      return some (.update, .updateQuestion form u.question fields)
    else .ok none
  | action => do
    discard action.render
    return none

/-- Makes changes to questions one after another. -/
def runSteps (client : Client) (abortOnFailure : Bool) (form : String) :
    List QuestionUpdate → Run (List Step)
  | [] => return []
  | u :: us => do
    match ← Session.checked (u.request? form) with
    | none => runSteps client abortOnFailure form us
    | some (action, request) =>
      match ← ExceptT.lift (client.attempt request) with
      | .ok _ =>
        let rest ← runSteps client abortOnFailure form us
        return { action, question := u.question } :: rest
      | .error (.provider e) =>
        if abortOnFailure then throw (.provider e)
        let rest ← runSteps client abortOnFailure form us
        return { action, question := u.question, failure := some e } :: rest
      | .error fault => throw fault

namespace Publisher

/-- Replaces properties of a form. -/
def updateProperties (client : Client) (form : String) (u : UpdateRequest) : Run Updated := do
  match ← Session.accepted u.readProperties with
  | none => throw (.rejected .noProperties)
  | some properties =>
    let data ← client.updateProperties (.text form) (.map properties)
    return { message := .properties, data }

/-- Changes questions of a form and adds others. -/
def updateQuestions (client : Client) (abortOnFailure : Bool) (form : String)
    (u : UpdateRequest) : Run Updated := do
  let updates ← Session.ensured u.readQuestionUpdates
  let newQuestions ← Session.accepted u.readNewQuestions
  let steps ← runSteps client abortOnFailure form updates
  if newQuestions.isEmpty then
    return { message := .questions, data := reportSteps steps none }
  else
    let added ← client.addQuestions (.text form) (.list (newQuestions.map .map))
    return { message := .newQuestions, data := reportSteps steps (some added) }

/-- Replaces the conditions of a form, which are one of its properties. -/
def updateConditions (client : Client) (form : String) (u : UpdateRequest) : Run Updated := do
  match ← Session.ensured u.readConditions with
  | none => throw (.rejected .noConditions)
  | some conditions =>
    let text ← Session.drawing do
      let encoded ← encodeConditions conditions
      compactText (.list (encoded.map EncodedCondition.toValue))
    let data ← client.updateProperties (.text form) (.object [("conditions", .text text)])
    return { message := .conditions, data }

/-- Carries out a request to change a form. -/
def updateForm (p : Publisher) (u : UpdateRequest) : Run Updated := do
  let key ← Session.accepted (resolveKey u.apiKey p.configuredKey)
  match u.formId.filter (· ≠ "") with
  | none => throw (.rejected .noFormId)
  | some form =>
    match UpdateKind.ofValue? u.kind with
    | none => throw (.rejected .unknownUpdate)
    | some kind =>
      let client ← p.openClient key
      during .updateForm <|
        match kind with
        | .properties => updateProperties client form u
        | .questions => updateQuestions client p.abortOnFailure form u
        | .conditions => updateConditions client form u

/-- Carries out the change that the body of a request asks for. -/
def updateFromBody (p : Publisher) (body : Value) : Run Updated := do
  discard <| Session.accepted (resolveKey (bodyKey body) p.configuredKey)
  p.updateForm (← Session.ensured (UpdateRequest.read body))

end Publisher

end FormPublisher
