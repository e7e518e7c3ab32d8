import FormPublisher.Json.Encoding
import FormPublisher.Publish.Create
import FormPublisher.Publish.Update
import FormPublisher.Settings
import FormPublisher.Web.Message

/-!
# The server

`Server.respond` answers a request under settings.  Two pages tell that the server is there and draw
an identifier, and two more take the body of a request to create or to update a form.  Only these
two make calls to the provider.

A request for the options of a page is answered before its path is looked at.  For the others the
path comes first: an unknown one is not found, whatever the method.
-/

namespace FormPublisher

/-- The pages of the server; `static` stands for the files that a page may refer to, of which there
are none. -/
inductive Page where
  | message
  | random
  | createForm
  | updateForm
  | static
  deriving DecidableEq, Repr, Inhabited

namespace Page

/-- The page at a path. -/
def ofPath? (path : String) : Option Page :=
  if path = "/message" then some message
  else if path = "/random" then some random
  else if path = "/create-form" then some createForm
  else if path = "/update-form" then some updateForm
  else
    match (path.toList.drop 8) with
    | c :: cs =>
      if path.startsWith "/static/" ∧ c ≠ '/' ∧ !cs.contains '\n' then some static else none
    | [] => none

/-- Whether a page can be asked for by a method. -/
def allows (p : Page) (method : String) : Bool :=
  match p with
  | message | random | static => method == "GET" || method == "HEAD"
  | createForm | updateForm => method == "POST"

end Page

/-! ### Answers -/

namespace WebAnswer

/-- The answer to a path that leads nowhere. -/
def notFound : WebAnswer := (404, .page "Not Found")

/-- The answer to a method that a page does not know. -/
def notAllowed : WebAnswer := (405, .page "Method not allowed")

/-- The answer to what nobody expected. -/
def internal (message : String) : WebAnswer :=
  (500, .json (.object [("error", .text "Internal server error"), ("message", .text message)]))

/-- The answer to a fault: a request that is turned down, a call that the provider answered with an
error, whose status and text are passed on, or anything else. -/
def ofFault : Fault → WebAnswer
  | .rejected cause => (400, .json (.object [("error", .text cause.message)]))
  | .provider cause =>
    match cause.status with
    | some status =>
      (status,
        .json (.object [("error", .text cause.message), ("details", Value.ofText? cause.body)]))
    | none => internal cause.message
  | fault => internal fault.message

/-- The answer for a form that was made. -/
def ofCreated (c : Created) : WebAnswer :=
  (200, .json (.object [("success", .bool true), ("formId", c.formId), ("formUrl", c.formUrl),
    ("data", c.data)]))

/-- The answer for a form that was changed. -/
def ofUpdated (u : Updated) : WebAnswer :=
  (200, .json (.object [("success", .bool true), ("message", .text u.message.text),
    ("data", u.data)]))

/-- The message about a body that is not JSON. -/
def unreadableMessage : String :=
  "400 Bad Request: The browser (or proxy) sent a request that this server could not understand."

/-- The answer to a body that cannot be read: only one with too many lists or objects inside each
other is told apart. -/
def ofFlaw : Flaw → WebAnswer
  | .literal (.tooDeep kind) => internal (LiteralError.tooDeep kind).message
  | _ => internal unreadableMessage

/-- The answer for the outcome of what the body of a request asks for. -/
def ofBody {α : Type} (body : List UInt8) (carryOut : Value → Run α) (tell : α → WebAnswer) :
    StateM Session WebAnswer := do
  match Json.readBytes body with
  | .error flaw => return ofFlaw flaw
  | .ok v =>
    match ← (carryOut v).run with
    | .ok result => return tell result
    | .error fault => return ofFault fault

end WebAnswer

/-! ### Serving -/

namespace Server

/-- The answer of a page. -/
def answerPage (settings : Settings) (body : List UInt8) : Page → StateM Session WebAnswer
  | .message => return (200, .page "Hello, World!")
  | .random =>
    modifyGet fun s =>
      let r := IdSupply.draw.run s.ids
      ((200, .page (hyphenated r.1)), { s with ids := r.2 })
  | .createForm => WebAnswer.ofBody body settings.publisher.createFromBody WebAnswer.ofCreated
  | .updateForm => WebAnswer.ofBody body settings.publisher.updateFromBody WebAnswer.ofUpdated
  | .static => return WebAnswer.notFound

/-- The answer to a method on a path. -/
def answer (settings : Settings) (method path : String) (body : List UInt8) :
    StateM Session WebAnswer :=
  if method = "OPTIONS" then return (200, .page "")
  else
    match Page.ofPath? path with
    | none => return WebAnswer.notFound
    | some page =>
      if page.allows method then answerPage settings body page else return WebAnswer.notAllowed

/-- The response to a request: an answer with the headers, and without its body if only the head is
asked for.  A method may be in letters of any case, but the body is left out for capitals only. -/
def respond (settings : Settings) (r : WebRequest) : StateM Session WebResponse := do
  let answer ← answer settings (Text.toUpper r.method) r.path r.body
  return {
    status := answer.1
    crossOrigin := { origin := settings.allowOrigin }
    body := if r.method = "HEAD" then .page "" else answer.2 }

end Server

end FormPublisher
