import FormPublisher.Form.Document
import FormPublisher.Proofs.Form.Layout
import FormPublisher.Proofs.Request.Shape

/-!
# Which documents are accepted

`Document.parts` lists the parts of a document that can be at fault, each with its shape, in the
order in which they are checked.  A JSON value is read as a document exactly if it is an object all
of whose parts have their shapes, and otherwise it is turned down for the first part that has not
(`Document.read_decides`): the reason names this part, and within the part the shape of all entries
counts before the keys of any.
-/

namespace FormPublisher

/-! ### Entries -/

section Entries

variable {es : Entries}

theorem EligibilityQuestion.requires_read :
    es.Requires "eligibilityQuestions" ["name"] (EligibilityQuestion.read es) :=
  Entries.requires_cons fun _ _ => decides_nil ⟨_, rfl⟩

theorem LegalText.requires_read :
    es.Requires "legalTextBlocks" ["content"] (LegalText.read es) :=
  Entries.requires_cons fun _ _ => decides_nil ⟨_, rfl⟩

theorem Widget.requires_read : es.Requires "widgets" ["type", "name"] (Widget.read es) :=
  Entries.requires_cons fun _ _ => Entries.requires_cons fun _ _ => decides_nil ⟨_, rfl⟩

theorem EmailNotification.requires_read :
    es.Requires "emailNotification" ["to"] (EmailNotification.read es) :=
  Entries.requires_cons fun _ _ => decides_nil ⟨_, rfl⟩

theorem Signature.requires_read (hes : areJsonEntries es) :
    es.Requires "signatureFields" ["name"] (Signature.read es) := by
  obtain ⟨size, hsize⟩ := exists_renderOptional_eq_ok_iff.mpr fun w hw =>
    Value.isWritable_of_isJson (Entries.isJson_of_present? hes hw)
  refine Entries.requires_cons fun name _ => decides_nil ?_
  rw [hsize]
  exact ⟨_, rfl⟩

theorem HiddenField.requires_read (hes : areJsonEntries es) :
    es.Requires "hiddenFields" ["name"] (HiddenField.read es) := by
  have hwritable : ∀ w, (es.present? "text" <|> es.present? "value") = some w → w.isWritable := by
    intro w hw
    refine Value.isWritable_of_isJson ?_
    rcases h : es.present? "text" with _ | v
    · rw [h] at hw
      exact Entries.isJson_of_present? hes hw
    · rw [h] at hw
      rw [← Option.some.inj hw]
      exact Entries.isJson_of_present? hes h
  obtain ⟨text, htext⟩ := exists_renderOptional_eq_ok_iff.mpr hwritable
  refine Entries.requires_cons fun name _ => decides_nil ?_
  rw [htext]
  exact ⟨_, rfl⟩

end Entries

/-! ### Parts -/

namespace Document

/-- The parts of a document that are checked, in this order. -/
def parts : List (String × Shape) :=
  [("properties", .object []), ("eligibilityQuestions", .objects ["name"]),
    ("personalInfoFields", .object []), ("legalTextBlocks", .objects ["content"]),
    ("signatureFields", .objects ["name"]), ("hiddenFields", .objects ["name"]),
    ("widgets", .objects ["type", "name"]), ("emailNotification", .object ["to"]),
    ("conditionalVisibility", .object [])]

/-- A reader that makes the checks of some parts of a document. -/
abbrev DecidesParts {α : Type} (data : Entries) (x : Except Fault α)
    (checked : List (String × Shape)) : Prop :=
  DecidesAll x (fun p => p.2.Accepts (data.get p.1)) (fun p => p.2.Rejects p.1 (data.get p.1))
    checked

section Parts

variable {α β γ : Type} {data : Entries} {key : String} {keys : List String}
  {checked : List (String × Shape)} {read : Entries → Except Fault α}

/-- An object in which no keys are asked for is taken as it is. -/
theorem decidesParts_taken {rest : Option Entries → Except Fault β} (hdata : areJsonEntries data)
    (hrest : ∀ found, DecidesParts data (rest found) checked) :
    DecidesParts data ((data.mappingAt key).mapError .rejected >>= rest)
      ((key, .object []) :: checked) := by
  have hfound : Decides ((data.mappingAt key).mapError .rejected)
      ((Shape.object []).Accepts (data.get key)) ((Shape.object []).Rejects key (data.get key)) := by
    have hread : ∀ es : Entries, areJsonEntries es →
        es.Requires key [] (Except.ok es : Except Fault Entries) :=
      fun es _ => decides_nil ⟨es, rfl⟩
    have hok : (fun found : Option Entries =>
        found.mapM (Except.ok : Entries → Except Fault Entries)) = pure := by
      funext found
      cases found <;> rfl
    have h := Decides.object (Entries.isJson_get hdata key) hread
    rwa [hok, bind_pure] at h
  exact hfound.cons fun found _ => hrest found

/-- An object is read after it was found, and reading goes on whether it is missing or not. -/
theorem decidesParts_object {next : Option Entries → Except Fault β}
    {rest : Option α → Except Fault β} (hsome : ∀ es, next (some es) = some <$> read es >>= rest)
    (hnone : next none = rest none) (hdata : areJsonEntries data)
    (hread : ∀ es : Entries, areJsonEntries es → es.Requires key keys (read es))
    (hrest : ∀ found, DecidesParts data (rest found) checked) :
    DecidesParts data ((data.mappingAt key).mapError .rejected >>= next)
      ((key, .object keys) :: checked) := by
  have hnext : next = fun found => found.mapM read >>= rest := by
    funext found
    cases found with
    | none => exact hnone
    | some es => exact hsome es
  rw [hnext, ← bind_assoc]
  exact (Decides.object (Entries.isJson_get hdata key) hread).cons fun found _ => hrest found

/-- The objects of a list are read one by one after they were found. -/
theorem decidesParts_objects {rest : List α → Except Fault β} (hdata : areJsonEntries data)
    (hread : ∀ es : Entries, areJsonEntries es → es.Requires key keys (read es))
    (hrest : ∀ items, DecidesParts data (rest items) checked) :
    DecidesParts data (do
      let entries ← (data.entriesAt key).mapError .rejected
      let items ← entries.mapM read
      rest items) ((key, .objects keys) :: checked) := by
  rw [← bind_assoc]
  exact (Decides.objects (Entries.isJson_get hdata key) hread).cons fun items _ => hrest items

end Parts

variable {data : Entries}

theorem decidesParts_ofEntries (hdata : areJsonEntries data) :
    DecidesParts data (ofEntries data) parts := by
  unfold ofEntries
  refine decidesParts_taken hdata fun properties => ?_
  refine decidesParts_objects hdata (fun _ _ => EligibilityQuestion.requires_read) fun _ => ?_
  refine decidesParts_taken hdata fun personal => ?_
  refine decidesParts_objects hdata (fun _ _ => LegalText.requires_read) fun _ => ?_
  refine decidesParts_objects hdata (fun _ => Signature.requires_read) fun _ => ?_
  refine decidesParts_objects hdata (fun _ => HiddenField.requires_read) fun _ => ?_
  refine decidesParts_objects hdata (fun _ _ => Widget.requires_read) fun _ => ?_
  refine decidesParts_object (fun _ => rfl) rfl hdata
    (fun _ _ => EmailNotification.requires_read) fun email => ?_
  exact decidesParts_taken hdata fun nested => decides_nil ⟨_, rfl⟩

/-- The first part of an object that has not its shape, and the reason why the object is turned
down, which names this part. -/
structure IsTurnedDownFor (data : Entries) (place : String) (shape : Shape) (cause : Rejection) :
    Prop where
  first : ∃ before after, parts = before ++ (place, shape) :: after ∧
    ∀ p ∈ before, p.2.Accepts (data.get p.1)
  offends : ¬ shape.Accepts (data.get place)
  reason : shape.Rejects place (data.get place) cause
  field : cause.field = some place

theorem firstFails_parts_iff {cause : Rejection} :
    FirstFails (fun p => p.2.Accepts (data.get p.1)) (fun p => p.2.Rejects p.1 (data.get p.1)) parts
        cause ↔
      ∃ place shape, IsTurnedDownFor data place shape cause := by
  constructor
  · rintro ⟨before, ⟨place, shape⟩, after, hparts, hbefore, hrejects⟩
    exact ⟨place, shape, ⟨before, after, hparts, hbefore⟩, hrejects.not_accepts, hrejects,
      hrejects.field⟩
  · rintro ⟨place, shape, ⟨before, after, hparts, hbefore⟩, -, hrejects, -⟩
    exact ⟨before, (place, shape), after, hparts, hbefore, hrejects⟩

/-- A JSON value is read as a document exactly if it is an object whose parts all have their shapes.
Otherwise it is turned down, either as no object, which is a fault of no field, or for the first
part that has not its shape. -/
theorem read_decides {v : Value} (hv : v.isJson) :
    ((∃ d, read v = .ok d) ↔
      ∃ data, v = .map data ∧ ∀ p ∈ parts, p.2.Accepts (Entries.get data p.1)) ∧
    ∀ fault, read v = .error fault ↔ ∃ cause, fault = .rejected cause ∧
      ((∀ data, v ≠ .map data) ∧ cause = .bodyNotObject ∧ cause.field = none ∨
        ∃ data, v = .map data ∧ ∃ place shape, IsTurnedDownFor data place shape cause) := by
  by_cases hmap : ∃ data, v = .map data
  · obtain ⟨data, rfl⟩ := hmap
    have hdecides : DecidesParts data (read (.map data)) parts := decidesParts_ofEntries hv
    refine ⟨?_, fun fault => ?_⟩
    · rw [hdecides.ok_iff]
      simp [Value.map.injEq]
    · rw [hdecides.error_iff]
      simp only [firstFails_parts_iff, Value.map.injEq]
      simp
  · have hno : ∀ data, v ≠ .map data := fun data h => hmap ⟨data, h⟩
    have hread : read v = .error (.rejected .bodyNotObject) := by
      unfold read
      rw [Value.opened_of_isJson hv]
      split
      · exact absurd rfl (hno _)
      · rfl
    rw [hread]
    refine ⟨⟨?_, ?_⟩, fun fault => ⟨?_, ?_⟩⟩
    · rintro ⟨d, hd⟩
      cases hd
    · rintro ⟨data, h, -⟩
      exact absurd h (hno data)
    · intro h
      exact ⟨.bodyNotObject, (Except.error.inj h).symm, Or.inl ⟨hno, rfl, rfl⟩⟩
    · rintro ⟨cause, rfl, ⟨-, rfl, -⟩ | ⟨data, h, -⟩⟩
      · rfl
      · exact absurd h (hno data)

/-- A hidden field without a name stands before one that is no object, and a part after them is no
list: the list of hidden fields is at fault, for what is no object in it. -/
theorem read_decides_of_many_faults :
    let v : Value := .object [
      ("widgets", .bool true),
      ("hiddenFields", .list [.object [("text", .text "web")], .text "run"]),
      ("eligibilityQuestions", .list [.object [("name", .bool false)]])]
    v.isJson ∧ ∃ cause, read v = .error (.rejected cause) ∧ cause = .entryNotObject "hiddenFields" ∧
      ∃ data, v = .map data ∧ ∃ shape, IsTurnedDownFor data "hiddenFields" shape cause := by
  intro v
  have hv : v.isJson := by decide
  have hread : read v = .error (.rejected (.entryNotObject "hiddenFields")) := rfl
  refine ⟨hv, _, hread, rfl, ?_⟩
  obtain ⟨cause, hcause, ⟨hno, -⟩ | ⟨data, hdata, place, shape, hturned⟩⟩ :=
    ((read_decides hv).2 _).mp hread
  · exact absurd rfl (hno _)
  · obtain rfl := Fault.rejected.inj hcause
    obtain rfl : "hiddenFields" = place := Option.some.inj hturned.field
    exact ⟨data, hdata, shape, hturned⟩

end Document

end FormPublisher
