import FormPublisher.Form.Encoding
import FormPublisher.Provider.Call

/-!
# Clients

A `Session` is the exchange with the provider so far: the replies still to come, the calls made, the
keys that clients were opened with and the identifiers not drawn yet.  Everything that talks to the
provider is a `Run`, which threads a session and keeps it when something goes wrong.

A `Client` makes calls with one key.  A method whose arguments cannot be written makes no call;
otherwise it makes exactly one and its outcome depends on the reply alone.
-/

namespace FormPublisher

/-! ### Sessions -/

/-- An exchange with the provider; `otherwise` is the reply to a call for which none is left. -/
structure Session where
  ids : IdSupply := .counting
  replies : List Reply := []
  otherwise : Reply := .standard
  calls : List Call := []
  clientKeys : List Value := []

/-- A computation that talks to the provider. -/
abbrev Run := ExceptT Fault (StateM Session)

namespace Session

/-- Records a call and takes the next reply. -/
def exchange (call : Call) : StateM Session Reply :=
  modifyGet fun s =>
    (s.replies.headD s.otherwise,
      { s with replies := s.replies.tail, calls := s.calls ++ [call] })

/-- Records that a client was opened with a key. -/
def noteKey (key : Value) : StateM Session Unit :=
  modify fun s => { s with clientKeys := s.clientKeys ++ [key] }

/-- Draws identifiers from the supply of the session. -/
def drawing {α : Type} (d : Drawing α) : Run α :=
  ExceptT.mk <| modifyGet fun s =>
    let r := d.run.run s.ids
    (r.1.mapError .misuse, { s with ids := r.2 })

/-- What goes wrong with a value goes wrong with the run. -/
def checked {α : Type} (e : Except Misuse α) : Run α := ExceptT.mk (pure (e.mapError .misuse))

/-- A request that is turned down ends the run. -/
def accepted {α : Type} (e : Except Rejection α) : Run α := ExceptT.mk (pure (e.mapError .rejected))

/-- Whatever goes wrong ends the run. -/
def ensured {α : Type} (e : Except Fault α) : Run α := ExceptT.mk (pure e)

end Session

/-! ### Clients -/

/-- The address of the provider. -/
def defaultApiUrl : String := "https://api.jotform.com"

/-- The time to wait for a reply. -/
def defaultTimeout : Value := .int 30

/-- One who makes calls with a key. -/
structure Client where
  apiKey : Value
  apiUrl : String := defaultApiUrl
  timeout : Value := defaultTimeout
  deriving Repr, Inhabited

/-- The address without slashes at its end. -/
def trimSlashes (url : String) : String :=
  String.ofList (url.toList.reverse.dropWhile (· = '/')).reverse

namespace Client

/-- The call that a client makes for a request. -/
def call (c : Client) (r : Request) : Call where
  method := r.method
  url := trimSlashes c.apiUrl ++ r.path
  apiKey := c.apiKey
  timeout := c.timeout
  body := r.body

/-- The outcome of a request for a reply. -/
def outcome (r : Request) (reply : Reply) : Except Fault Value :=
  reply.answer.mapError fun
    | .failed status body => .provider ⟨r.operation, status, body⟩
    | .unreadable cause => .literal cause

/-- Makes one call and tells its outcome. -/
def attempt (c : Client) (r : Request) : StateM Session (Except Fault Value) :=
  outcome r <$> Session.exchange (c.call r)

/-- Makes one call, which ends the run if it fails. -/
def send (c : Client) (r : Request) : Run Value := ExceptT.mk (c.attempt r)

/-- Asks for a new form. -/
def createForm (c : Client) (payload : Value) : Run Value := c.send (.createForm payload)

/-- Asks for properties of a form to be replaced. -/
def updateProperties (c : Client) (form properties : Value) : Run Value := do
  let form ← Session.checked form.render
  let fields ← Session.checked (properties.formFields "properties")
  c.send (.updateProperties form fields)

/-- Asks for a question to be changed. -/
def updateQuestion (c : Client) (form question data : Value) : Run Value := do
  let form ← Session.checked form.render
  let question ← Session.checked question.render
  let fields ← Session.checked (data.formFields "question")
  c.send (.updateQuestion form question fields)

/-- Asks for a question to be deleted. -/
def deleteQuestion (c : Client) (form question : Value) : Run Value := do
  let form ← Session.checked form.render
  let question ← Session.checked question.render
  c.send (.deleteQuestion form question)

/-- Asks for questions to be added. -/
def addQuestions (c : Client) (form questions : Value) : Run Value := do
  let items ← Session.checked questions.elements
  let form ← Session.checked form.render
  c.send (.addQuestions form items)

end Client

end FormPublisher
