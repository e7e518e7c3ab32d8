import FormPublisher.Form.Condition

/-!
# Update requests

An `UpdateRequest` asks for changes to a form that exists.  It says which kind of change it is and
carries the parts for all kinds as they came; a part is read only by the change that uses it, so
what is wrong with a part of another kind does not matter.
-/

namespace FormPublisher

/-- The kinds of changes to a form. -/
inductive UpdateKind where
  | properties
  | questions
  | conditions
  deriving DecidableEq, Repr, Inhabited

/-- The kind that a value names. -/
def UpdateKind.ofValue? : Value → Option UpdateKind
  | .scalar (.text "properties") => some properties
  | .scalar (.text "questions") => some questions
  | .scalar (.text "conditions") => some conditions
  | _ => none

/-- A change to one question of a form. -/
structure QuestionUpdate where
  question : String
  action : Value
  data : Value := .null
  newOrder : Value := .null
  deriving Repr, Inhabited

/-- A request to change a form. -/
structure UpdateRequest where
  formId : Option String
  kind : Value
  apiKey : Option Value := none
  properties : Value := .null
  questionUpdates : Value := .null
  newQuestions : Value := .null
  conditions : Value := .null
  deriving Repr, Inhabited

/-- A change to one question; what it does is looked at only when it is carried out. -/
def QuestionUpdate.read (e : Entries) : Except Fault QuestionUpdate := do
  let question ← (← e.require "questionId" "questionUpdates").render
  let action ← e.require "action" "questionUpdates"
  return {
    question
    action
    data := e.get "questionData"
    newOrder := e.get "newOrder" }

namespace UpdateRequest

/-- The request in the entries of an object. -/
def ofEntries (data : Entries) : Except Misuse UpdateRequest := do
  return {
    formId := ← renderOptional (data.present? "formId")
    kind := data.get "updateType"
    apiKey := data.present? "apiKey"
    properties := data.get "properties"
    questionUpdates := data.get "questionUpdates"
    newQuestions := data.get "newQuestions"
    conditions := data.get "conditions" }

/-- The request in a value. -/
def read (v : Value) : Except Fault UpdateRequest :=
  match v.opened with
  | .map data => (ofEntries data).mapError .misuse
  | _ => .error (.rejected .bodyNotObject)

/-- The properties to be replaced, if there are any. -/
def readProperties (u : UpdateRequest) : Except Rejection (Option Entries) :=
  mappingOf u.properties "properties"

/-- The changes to questions. -/
def readQuestionUpdates (u : UpdateRequest) : Except Fault (List QuestionUpdate) := do
  (← entryList u.questionUpdates "questionUpdates").mapM QuestionUpdate.read

/-- The questions to be added. -/
def readNewQuestions (u : UpdateRequest) : Except Rejection (List Entries) :=
  entryList u.newQuestions "newQuestions"

/-- The conditions that replace those of the form, if there are any. -/
def readConditions (u : UpdateRequest) : Except Fault (Option (List Condition)) := do
  match u.conditions with
  | .scalar .null => return none
  | v =>
    let entries ← entryList v "conditions"
    return some (← entries.mapM Condition.ofEntries)

end UpdateRequest

end FormPublisher
