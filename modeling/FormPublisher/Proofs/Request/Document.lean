import FormPublisher.Proofs.Form.Acceptance
import FormPublisher.Proofs.Publish.Keys

/-!
# Documents in the bodies of requests

A document is read out of an object exactly when all its parts are (`Document.ofEntries_eq_ok_iff`),
and its key is the key in the body (`Document.apiKey_of_read`).  Reading it out of a JSON body goes
wrong in one way only: the body is turned down (`Document.onlyRejects_read`).
-/

namespace FormPublisher

namespace Document

/-- A JSON body is a document or is turned down. -/
theorem onlyRejects_read {body : Value} (hbody : body.isJson) : OnlyRejects (read body) := by
  unfold read
  rw [Value.opened_of_isJson hbody]
  split
  · exact (decidesParts_ofEntries hbody).onlyRejects
  · exact onlyRejects_mapError (.error .bodyNotObject)

/-! ### What is read -/

/-- The items of a section are read out of the objects under its key. -/
def AreReadAt {α : Type} (data : Entries) (key : String) (read : Entries → Except Fault α)
    (items : List α) : Prop :=
  ∃ entries, data.entriesAt key = .ok entries ∧ entries.mapM read = .ok items

/-- A document whose parts are those that an object has under their keys. -/
structure IsReadFrom (d : Document) (data : Entries) : Prop where
  title : d.title = data.present? "title"
  apiKey : d.apiKey = data.present? "apiKey"
  properties : ∃ es, data.mappingAt "properties" = .ok es ∧ d.properties = es.getD []
  eligibilityQuestions : AreReadAt data "eligibilityQuestions" EligibilityQuestion.read
    d.eligibilityQuestions
  personalInfo : ∃ es, data.mappingAt "personalInfoFields" = .ok es ∧
    d.personalInfo = PersonalInfo.read (es.getD [])
  legalTexts : AreReadAt data "legalTextBlocks" LegalText.read d.legalTexts
  signatures : AreReadAt data "signatureFields" Signature.read d.signatures
  hiddenFields : AreReadAt data "hiddenFields" HiddenField.read d.hiddenFields
  widgets : AreReadAt data "widgets" Widget.read d.widgets
  includeCaptcha : d.includeCaptcha = data.flag "includeCaptcha"
  emailNotification : ∃ es, data.mappingAt "emailNotification" = .ok es ∧
    es.mapM EmailNotification.read = .ok d.emailNotification
  visibility : ∃ es, data.mappingAt "conditionalVisibility" = .ok es ∧
    d.visibility = Visibility.read data (es.getD [])

variable {data : Entries} {d : Document}

/-- A document is read exactly when all its parts are. -/
theorem ofEntries_eq_ok_iff : ofEntries data = .ok d ↔ d.IsReadFrom data := by
  constructor
  · intro h
    obtain ⟨properties, hproperties, h⟩ := bind_eq_ok_iff.mp h
    obtain ⟨eligibilityEntries, heligibilityEntries, h⟩ := bind_eq_ok_iff.mp h
    obtain ⟨eligibility, heligibility, h⟩ := bind_eq_ok_iff.mp h
    obtain ⟨personal, hpersonal, h⟩ := bind_eq_ok_iff.mp h
    obtain ⟨legalEntries, hlegalEntries, h⟩ := bind_eq_ok_iff.mp h
    obtain ⟨legal, hlegal, h⟩ := bind_eq_ok_iff.mp h
    obtain ⟨signatureEntries, hsignatureEntries, h⟩ := bind_eq_ok_iff.mp h
    obtain ⟨signatures, hsignatures, h⟩ := bind_eq_ok_iff.mp h
    obtain ⟨hiddenEntries, hhiddenEntries, h⟩ := bind_eq_ok_iff.mp h
    obtain ⟨hidden, hhidden, h⟩ := bind_eq_ok_iff.mp h
    obtain ⟨widgetEntries, hwidgetEntries, h⟩ := bind_eq_ok_iff.mp h
    obtain ⟨widgets, hwidgets, h⟩ := bind_eq_ok_iff.mp h
    obtain ⟨email, hemail, h⟩ := bind_eq_ok_iff.mp h
    -- The notification may be missing, but the document goes on in the same way.
    cases email
    all_goals
      obtain ⟨notification, hnotification, h⟩ := bind_eq_ok_iff.mp h
      obtain ⟨nested, hnested, h⟩ := bind_eq_ok_iff.mp h
      obtain rfl := Except.ok.inj h
      exact {
        title := rfl
        apiKey := rfl
        properties := ⟨properties, mapError_eq_ok_iff.mp hproperties, rfl⟩
        eligibilityQuestions := ⟨_, mapError_eq_ok_iff.mp heligibilityEntries, heligibility⟩
        personalInfo := ⟨personal, mapError_eq_ok_iff.mp hpersonal, rfl⟩
        legalTexts := ⟨_, mapError_eq_ok_iff.mp hlegalEntries, hlegal⟩
        signatures := ⟨_, mapError_eq_ok_iff.mp hsignatureEntries, hsignatures⟩
        hiddenFields := ⟨_, mapError_eq_ok_iff.mp hhiddenEntries, hhidden⟩
        widgets := ⟨_, mapError_eq_ok_iff.mp hwidgetEntries, hwidgets⟩
        includeCaptcha := rfl
        emailNotification := ⟨_, mapError_eq_ok_iff.mp hemail, hnotification⟩
        visibility := ⟨nested, mapError_eq_ok_iff.mp hnested, rfl⟩ }
  · intro h
    obtain ⟨title, apiKey, properties, eligibility, info, legal, signatures, hidden, widgets,
      captcha, notification, visibility⟩ := d
    obtain ⟨rfl, rfl, ⟨properties, hproperties, rfl⟩, ⟨_, heligibilityEntries, heligibility⟩,
      ⟨personal, hpersonal, rfl⟩, ⟨_, hlegalEntries, hlegal⟩, ⟨_, hsignatureEntries, hsignatures⟩,
      ⟨_, hhiddenEntries, hhidden⟩, ⟨_, hwidgetEntries, hwidgets⟩, rfl,
      ⟨email, hemail, hnotification⟩, ⟨nested, hnested, rfl⟩⟩ := h
    refine bind_eq_ok_iff.mpr ⟨_, mapError_eq_ok_iff.mpr hproperties, ?_⟩
    refine bind_eq_ok_iff.mpr ⟨_, mapError_eq_ok_iff.mpr heligibilityEntries, ?_⟩
    refine bind_eq_ok_iff.mpr ⟨_, heligibility, ?_⟩
    refine bind_eq_ok_iff.mpr ⟨_, mapError_eq_ok_iff.mpr hpersonal, ?_⟩
    refine bind_eq_ok_iff.mpr ⟨_, mapError_eq_ok_iff.mpr hlegalEntries, ?_⟩
    refine bind_eq_ok_iff.mpr ⟨_, hlegal, ?_⟩
    refine bind_eq_ok_iff.mpr ⟨_, mapError_eq_ok_iff.mpr hsignatureEntries, ?_⟩
    refine bind_eq_ok_iff.mpr ⟨_, hsignatures, ?_⟩
    refine bind_eq_ok_iff.mpr ⟨_, mapError_eq_ok_iff.mpr hhiddenEntries, ?_⟩
    refine bind_eq_ok_iff.mpr ⟨_, hhidden, ?_⟩
    refine bind_eq_ok_iff.mpr ⟨_, mapError_eq_ok_iff.mpr hwidgetEntries, ?_⟩
    refine bind_eq_ok_iff.mpr ⟨_, hwidgets, ?_⟩
    refine bind_eq_ok_iff.mpr ⟨_, mapError_eq_ok_iff.mpr hemail, ?_⟩
    cases email
    all_goals
      refine bind_eq_ok_iff.mpr ⟨_, hnotification, ?_⟩
      exact bind_eq_ok_iff.mpr ⟨_, mapError_eq_ok_iff.mpr hnested, rfl⟩

/-- The key of a document is the key of the body that it is read out of. -/
theorem apiKey_of_read {body : Value} (h : read body = .ok d) : d.apiKey = bodyKey body := by
  unfold read at h
  split at h
  · rename_i data hdata
    rw [bodyKey, hdata]
    exact (ofEntries_eq_ok_iff.mp h).apiKey
  · cases h

end Document

end FormPublisher
