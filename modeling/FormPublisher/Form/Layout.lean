import FormPublisher.Form.Document
import FormPublisher.Form.Question
import FormPublisher.Json.Writer

/-!
# From a document to its questions

`Document.questions` lays out the questions of a document: the hidden fields, the header, the
eligibility questions, the first legal text, the personal questions, a page break, the other legal
texts, the signatures, the captcha, the submit button and the widgets.  Positions count from one
over all of them.  The first legal text stands apart from the others so that it can be shown
together with the personal questions.

A widget of an unknown type is left out.  Its type is looked up as a key, so one that can be no key
is a misuse, and the log names it, so its name and its type must have a text.
-/

namespace FormPublisher

/-! ### Attributes -/

/-- The text for a flag. -/
def yesNo (flag : Bool) : Value := .text (if flag then "Yes" else "No")

/-- Attributes that are all texts. -/
def textAttributes (fields : List (String × String)) : List (String × Value) :=
  fields.map fun f => (f.1, .text f.2)

/-- Labels of the parts of a question, written as one JSON text. -/
def sublabels (fields : List (String × String)) : String :=
  ((Json.write .compact (.object (textAttributes fields))).toOption).getD ""

/-! ### Personal questions -/

/-- A fact about the respondent. -/
inductive PersonalField where
  | name
  | address
  | email
  | phone
  deriving DecidableEq, Repr, Inhabited

namespace PersonalField

/-- All facts in the order of their questions. -/
def all : List PersonalField := [name, address, email, phone]

/-- Whether a document asks for a fact. -/
def isSelected (info : PersonalInfo) : PersonalField → Bool
  | name => info.includeName
  | address => info.includeAddress
  | email => info.includeEmail
  | phone => info.includePhone

/-- The control that asks for a fact. -/
def kind : PersonalField → String
  | name => "control_fullname"
  | address => "control_address"
  | email => "control_email"
  | phone => "control_phone"

/-- The text of the question. -/
def text : PersonalField → String
  | name => "Name *"
  | address => "Address *"
  | email => "Email *"
  | phone => "Phone Number *"

/-- The name of the question. -/
def fieldName : PersonalField → String
  | name => "name"
  | address => "address"
  | email => "email"
  | phone => "phoneNumber"

/-- The attributes of the question. -/
def attributes : PersonalField → List (String × String)
  | name =>
    [("required", "Yes"), ("labelAlign", "Auto"), ("validation", "None"),
      ("sublabels", sublabels [("prefix", "Prefix"), ("first", "First Name"),
        ("middle", "Middle Name"), ("last", "Last Name"), ("suffix", "Suffix")]),
      ("size", "20"), ("readonly", "No")]
  | address =>
    [("required", "Yes"), ("labelAlign", "Auto"), ("validation", "None"),
      ("sublabels", sublabels [("addr_line1", "Street Address"),
        ("addr_line2", "Street Address Line 2"), ("city", "City"), ("state", "State"),
        ("postal", "Zip Code"), ("country", "Country")]),
      ("size", "20"), ("readonly", "No")]
  | email =>
    [("required", "Yes"), ("labelAlign", "Auto"), ("validation", "Email"), ("size", "20"),
      ("readonly", "No")]
  | phone =>
    [("required", "Yes"), ("labelAlign", "Auto"), ("validation", "None"), ("countryCode", "No"),
      ("inputMask", "enable"), ("inputMaskValue", "(###) ###-####"), ("size", "20"),
      ("readonly", "No"),
      ("sublabels", sublabels [("country", "Country Code"), ("area", "Area Code"),
        ("phone", "Phone Number"), ("full", "Phone Number"),
        ("masked", "Please enter a valid phone number.")])]

/-- The question for a fact. -/
def question (f : PersonalField) : Question where
  kind := f.kind
  text := .text f.text
  name := .text f.fieldName
  attributes := textAttributes f.attributes
  part := .personal

end PersonalField

/-- The facts that are asked for, in the order of their questions. -/
def PersonalInfo.selected (info : PersonalInfo) : List PersonalField :=
  PersonalField.all.filter (PersonalField.isSelected info)

/-! ### Widgets -/

/-- The collectors of data that are known. -/
inductive WidgetKind where
  | userAgent
  | geoStamp
  deriving DecidableEq, Repr, Inhabited

namespace WidgetKind

/-- The title of a widget at the provider. -/
def title : WidgetKind → String
  | userAgent => "Get User Agent"
  | geoStamp => "Geo Stamp"

/-- The provider's number of a widget. -/
def identifier : WidgetKind → String
  | userAgent => "543ea3eb3066feaa30000036"
  | geoStamp => "5935688a725d1797050002e7"

/-- The kind of widget that a type names. -/
def named? : Value → Option WidgetKind
  | .scalar (.text "userAgent") => some userAgent
  | .scalar (.text "geoStamp") => some geoStamp
  | _ => none

/-- The kind of widget that a type names, if it is a known one; what can be no key cannot be looked
up. -/
def ofType (type : Value) : Except Misuse (Option WidgetKind) :=
  match type.keyObstacle? with
  | some kind => .error (.notKey kind)
  | none => .ok (named? type)

end WidgetKind

/-- The question for a widget of a known kind; its text is empty so that it never has a label. -/
def Widget.question (w : Widget) (kind : WidgetKind) : Question where
  kind := "control_widget"
  text := .text ""
  name := w.name
  attributes := textAttributes [("cfname", kind.title), ("selectedField", kind.identifier),
    ("static", "No"), ("hidden", "Yes")]
  part := .widget

/-- The question for a widget, or none if its type is unknown. -/
def Widget.question? (w : Widget) : Except Misuse (Option Question) := do
  match ← WidgetKind.ofType w.type with
  | some kind => return some (w.question kind)
  | none =>
    discard w.name.render
    discard w.type.render
    return none

/-- The questions for widgets; those of an unknown type are left out. -/
def widgetQuestions (widgets : List Widget) : Except Misuse (List Question) :=
  (·.filterMap id) <$> widgets.mapM Widget.question?

/-! ### The other sections -/

/-- The question for a hidden field. -/
def HiddenField.question (h : HiddenField) : Question where
  kind := "control_textbox"
  text := .text h.text
  name := h.name
  attributes := textAttributes [("hidden", "Yes"), ("labelAlign", "Auto"),
    ("validation", "None"), ("size", "20"), ("required", "No"), ("readonly", "No")]
  part := .hidden

/-- The header of a form, with a text of its own for a title that is missing or empty. -/
def headerQuestion (title : Option Value) : Question where
  kind := "control_head"
  text := (title.filter Value.isTruthy).getD (.text "Form Title")
  name := .text "header"
  part := .header

/-- The question for an eligibility question. -/
def EligibilityQuestion.question (e : EligibilityQuestion) : Question where
  kind := "control_radio"
  text := e.text
  name := e.name
  attributes := [("required", yesNo e.required), ("options", .text "Yes|No")]
  part := .eligibility

/-- The question for the legal text at an index, whose name is made from the index if it has none
or an empty one. -/
def LegalText.question (part : Section) (index : Nat) (b : LegalText) : Question where
  kind := "control_text"
  text := b.content
  name := (b.name.filter Value.isTruthy).getD (.text ("legalText" ++ toString index))
  part := part

/-- The page break after the personal questions. -/
def pageBreakQuestion : Question where
  kind := "control_pagebreak"
  text := .text "Page Break"
  name := .text "pageBreak2"
  part := .pageBreak

/-- The question for a signature; an empty width counts as none. -/
def Signature.question (s : Signature) : Question where
  kind := "control_signature"
  text := s.text
  name := s.name
  attributes := [("required", yesNo s.required),
    ("size", .text ((s.size.filter (· ≠ "")).getD "600")), ("labelAlign", .text "Auto"),
    ("validation", .text "None")]
  part := .signature

/-- The captcha. -/
def captchaQuestion : Question where
  kind := "control_captcha"
  text := .text "Please verify that you are human"
  name := .text "captcha"
  attributes := textAttributes [("captchaType", "invisible"), ("useInvisibleRecaptcha", "Yes")]
  part := .captcha

/-- The submit button. -/
def submitQuestion : Question where
  kind := "control_button"
  text := .text "Submit"
  name := .text "submit"
  part := .submit

/-! ### The whole form -/

namespace Document

/-- The first legal text, if there is one. -/
def firstLegalQuestions (d : Document) : List Question :=
  (d.legalTexts.take 1).map (LegalText.question .firstLegal 0)

/-- The legal texts after the first. -/
def otherLegalQuestions (d : Document) : List Question :=
  (d.legalTexts.drop 1).mapIdx fun i b => LegalText.question .legal (i + 1) b

/-- The questions from the header to the submit button, not numbered yet. -/
def bodyQuestions (d : Document) : List Question :=
  [headerQuestion d.title] ++
  d.eligibilityQuestions.map EligibilityQuestion.question ++
  d.firstLegalQuestions ++
  d.personalInfo.selected.map PersonalField.question ++
  [pageBreakQuestion] ++
  d.otherLegalQuestions ++
  d.signatures.map Signature.question ++
  (if d.includeCaptcha then [captchaQuestion] else []) ++
  [submitQuestion]

/-- The questions of a document, numbered from one on. -/
def questions (d : Document) : Except Misuse (List Question) := do
  let widgets ← widgetQuestions d.widgets
  return Question.number (d.hiddenFields.map HiddenField.question ++ d.bodyQuestions ++ widgets)

end Document

end FormPublisher
