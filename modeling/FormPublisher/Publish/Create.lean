import FormPublisher.Form.Payload
import FormPublisher.Publish.Publisher

/-!
# Creating forms

`Publisher.createForm` makes the form that a document describes: the key is looked for first, then
the payload is made, and then one call asks the provider for the form.  `Publisher.createFromBody`
starts from the body of a request and looks for the key before it reads the body.
-/

namespace FormPublisher

/-- A form that was made: its number and address, as far as the provider tells them, and all that
the provider said. -/
structure Created where
  formId : Value
  formUrl : Value
  data : Value
  deriving Repr, Inhabited

/-- The form that a reply of the provider tells of. -/
def Created.ofReply (reply : Value) : Except Misuse Created := do
  let content ← reply.member "content"
  let content := (content.present?).getD (.map [])
  let formId ← content.member "id"
  let formUrl ← content.member "url"
  return { formId, formUrl, data := reply }

namespace Publisher

/-- Makes the form that a document describes. -/
def createForm (p : Publisher) (d : Document) : Run Created := do
  let key ← Session.accepted (resolveKey d.apiKey p.configuredKey)
  let payload ← Session.drawing d.payload
  let client ← p.openClient key
  let reply ← during .createForm (client.createForm payload.toValue)
  Session.checked (Created.ofReply reply)

/-- Makes the form that the body of a request describes. -/
def createFromBody (p : Publisher) (body : Value) : Run Created := do
  discard <| Session.accepted (resolveKey (bodyKey body) p.configuredKey)
  p.createForm (← Session.ensured (Document.read body))

end Publisher

end FormPublisher
