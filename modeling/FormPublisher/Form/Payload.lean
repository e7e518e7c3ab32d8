import FormPublisher.Form.Encoding

/-!
# Payloads

A `Payload` is what is sent to make a form: its properties, its questions and its notifications.
The properties are the title and a style, over which the properties of the document are laid key by
key, and the conditions of the form, if it has any, whatever the document says of conditions.
-/

namespace FormPublisher

/-- What is sent to make a form. -/
structure Payload where
  properties : Entries
  questions : List Entries
  emails : List Entries
  deriving Repr, Inhabited

/-- The style of a form for which the document says nothing else. -/
def defaultStyle : List (String × String) :=
  [("height", "600"), ("formWidth", "752"), ("labelWidth", "230"), ("font", "Inter"),
    ("fontsize", "14"), ("fontcolor", "#121212"), ("background", "rgba(255,255,255,0)"),
    ("pageColor", "#F3F3FE"), ("alignment", "Top"), ("lineSpacing", "4"), ("styles", "nova"),
    ("themeID", "5e6b428acc8c4e222d1beb91"), ("showProgressBar", "disable"),
    ("errorNavigation", "Yes"), ("highlightLine", "Enabled"), ("responsive", "No")]

/-- The properties of a form before any condition. -/
def Document.formProperties (d : Document) : Entries :=
  Entries.update
    ((.text "title", (d.title.filter Value.isTruthy).getD (.text "New Form")) ::
      defaultStyle.map fun p => (.text p.1, .text p.2))
    d.properties

/-- The notifications of a form. -/
def Document.emails (d : Document) : List Entries :=
  (d.emailNotification.map fun e =>
    [(.text "type", .text "notification"), (.text "name", .text "notification"),
      (.text "from", (e.sender.filter Value.isTruthy).getD (.text "default")),
      (.text "to", e.recipient),
      (.text "subject", (e.subject.filter Value.isTruthy).getD (.text "New Form Submission")),
      (.text "html", .text "true")]).toList

/-- The properties with the conditions of a form, if there are any. -/
def withConditions (properties : Entries) (conditions : List EncodedCondition) : Entries :=
  if conditions.isEmpty then properties
  else Entries.put (.text "conditions") (.list (conditions.map EncodedCondition.toValue)) properties

/-- The payload for a document and its compiled form. -/
def Document.assemble (d : Document) (form : CompiledForm) : Drawing Payload := do
  let conditions ← encodeConditions form.conditions
  return {
    properties := withConditions d.formProperties conditions
    questions := form.questions.map Question.toEntries
    emails := d.emails }

/-- The payload of a document. -/
def Document.payload (d : Document) : Drawing Payload := do
  let form ← ExceptT.mk (pure d.compile)
  d.assemble form

/-- The object that is sent. -/
def Payload.toValue (p : Payload) : Value :=
  .object [("properties", .map p.properties), ("questions", .list (p.questions.map .map)),
    ("emails", .list (p.emails.map .map))]

end FormPublisher
