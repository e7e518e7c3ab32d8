import FormPublisher.Request.Field
import FormPublisher.Value.Display

/-!
# Form documents

A `Document` describes a form to be made: its title, its properties, and the sections of questions
in it.  Every section may be left out.  `Document.read` reads a document from a value.  It checks
the parts in a fixed order, and within a part the shape of all entries before what each of them
must hold; the first fault found is the one that is reported.

Texts and names are kept as they come, whatever their kind: only their presence is asked for.
-/

namespace FormPublisher

/-! ### Sections of a document -/

/-- A question to be answered by yes or no before a respondent is eligible. -/
structure EligibilityQuestion where
  text : Value
  name : Value
  required : Bool := false
  deriving Repr, Inhabited

/-- Which facts about the respondent are asked for. -/
structure PersonalInfo where
  includeName : Bool := false
  includeAddress : Bool := false
  includeEmail : Bool := false
  includePhone : Bool := false
  deriving DecidableEq, Repr, Inhabited

/-- Whether any fact is asked for. -/
def PersonalInfo.anySelected (info : PersonalInfo) : Bool :=
  info.includeName || info.includeAddress || info.includeEmail || info.includePhone

/-- A block of legal text. -/
structure LegalText where
  content : Value
  name : Option Value := none
  deriving Repr, Inhabited

/-- A box to sign in; its width may be left to a default. -/
structure Signature where
  text : Value
  name : Value
  required : Bool := false
  size : Option String := none
  deriving Repr, Inhabited

/-- A field that the respondent does not see. -/
structure HiddenField where
  name : Value
  text : String
  deriving Repr, Inhabited

/-- An invisible collector of data. -/
structure Widget where
  type : Value
  name : Value
  text : Value := .text ""
  deriving Repr, Inhabited

/-- An e-mail to be sent for every submission. -/
structure EmailNotification where
  recipient : Value
  subject : Option Value := none
  sender : Option Value := none
  deriving Repr, Inhabited

/-- Whether questions are shown or hidden by the answers to others. -/
structure Visibility where
  enabled : Bool := false
  onlyIfEligible : Bool := false
  deriving DecidableEq, Repr, Inhabited

/-- Whether the personal questions depend on eligibility. -/
def Visibility.gatesPersonalInfo (v : Visibility) : Bool := v.enabled && v.onlyIfEligible

/-- The description of a form. -/
structure Document where
  title : Option Value := none
  apiKey : Option Value := none
  properties : Entries := []
  eligibilityQuestions : List EligibilityQuestion := []
  personalInfo : PersonalInfo := {}
  legalTexts : List LegalText := []
  signatures : List Signature := []
  hiddenFields : List HiddenField := []
  widgets : List Widget := []
  includeCaptcha : Bool := false
  emailNotification : Option EmailNotification := none
  visibility : Visibility := {}
  deriving Repr, Inhabited

/-! ### Reading the sections -/

/-- An eligibility question. -/
def EligibilityQuestion.read (e : Entries) : Except Fault EligibilityQuestion := do
  let name ← e.require "name" "eligibilityQuestions"
  return { text := e.getText "text", name, required := e.flag "required" }

/-- The facts asked for; those that are not mentioned are not. -/
def PersonalInfo.read (e : Entries) : PersonalInfo where
  includeName := e.flag "includeName"
  includeAddress := e.flag "includeAddress"
  includeEmail := e.flag "includeEmail"
  includePhone := e.flag "includePhone"

/-- A block of legal text. -/
def LegalText.read (e : Entries) : Except Fault LegalText := do
  let content ← e.require "content" "legalTextBlocks"
  return { content, name := e.present? "name" }

/-- A signature box. -/
def Signature.read (e : Entries) : Except Fault Signature := do
  let name ← e.require "name" "signatureFields"
  return {
    text := e.getText "text"
    name
    required := e.flag "required"
    size := ← renderOptional (e.present? "size") }

/-- A hidden field; its text comes from the first of two keys whose value counts as present. -/
def HiddenField.read (e : Entries) : Except Fault HiddenField := do
  let name ← e.require "name" "hiddenFields"
  let text ← renderOptional (e.present? "text" <|> e.present? "value")
  return { name, text := text.getD "" }

/-- A widget. -/
def Widget.read (e : Entries) : Except Fault Widget := do
  let type ← e.require "type" "widgets"
  let name ← e.require "name" "widgets"
  return { type, name, text := e.getText "text" }

/-- A notification. -/
def EmailNotification.read (e : Entries) : Except Fault EmailNotification := do
  let recipient ← e.require "to" "emailNotification"
  return { recipient, subject := e.present? "subject", sender := e.present? "from" }

/-- The visibility settings: each stands at the top of the document or else in a section of its
own, and one that stands at the top counts there whatever its value. -/
def Visibility.read (data nested : Entries) : Visibility where
  enabled := ((data.get? "enableConditionals").getD (nested.get "enabled")).isTruthy
  onlyIfEligible :=
    ((data.get? "showPersonalInfoOnlyIfEligible").getD
      (nested.get "showPersonalInfoOnlyIfEligible")).isTruthy

/-! ### Reading a document -/

/-- The document in the entries of an object. -/
def Document.ofEntries (data : Entries) : Except Fault Document := do
  let properties ← data.mappingAt "properties"
  let eligibilityQuestions ←
    (← data.entriesAt "eligibilityQuestions").mapM EligibilityQuestion.read
  let personal ← data.mappingAt "personalInfoFields"
  let legalTexts ← (← data.entriesAt "legalTextBlocks").mapM LegalText.read
  let signatures ← (← data.entriesAt "signatureFields").mapM Signature.read
  let hiddenFields ← (← data.entriesAt "hiddenFields").mapM HiddenField.read
  let widgets ← (← data.entriesAt "widgets").mapM Widget.read
  let emailNotification ←
    match ← data.mappingAt "emailNotification" with
    | some e => some <$> EmailNotification.read e
    | none => pure none
  let nested ← data.mappingAt "conditionalVisibility"
  return {
    title := data.present? "title"
    apiKey := data.present? "apiKey"
    properties := properties.getD []
    eligibilityQuestions
    personalInfo := PersonalInfo.read (personal.getD [])
    legalTexts
    signatures
    hiddenFields
    widgets
    includeCaptcha := data.flag "includeCaptcha"
    emailNotification
    visibility := Visibility.read data (nested.getD []) }

/-- The document that a value describes. -/
def Document.read (v : Value) : Except Fault Document :=
  match v.opened with
  | .map data => Document.ofEntries data
  | _ => .error (.rejected .bodyNotObject)

end FormPublisher
