import FormPublisher.Proofs.Publish.Update

/-!
# What a request to change a form depends on

A request is carried out by the key, the form, the kind of change and the parts of the request that
this kind of change uses, and by nothing else (`exec_updateFromBody_congr`): two bodies that agree
on these fields end in the same way and leave the same session, with the same calls and the same
clients.  What is in the other fields is not even looked at, so it does not matter whether it could
be read.
-/

namespace FormPublisher

/-- The fields of a body that a kind of change uses. -/
def UpdateKind.fields : UpdateKind → List String
  | properties => ["properties"]
  | questions => ["questionUpdates", "newQuestions"]
  | conditions => ["conditions"]

namespace UpdateRequest

/-- The parts of two requests that a kind of change uses are the same. -/
def SameParts (kind : UpdateKind) (u v : UpdateRequest) : Prop :=
  match kind with
  | .properties => u.properties = v.properties
  | .questions => u.questionUpdates = v.questionUpdates ∧ u.newQuestions = v.newQuestions
  | .conditions => u.conditions = v.conditions

/-- Two requests that say the same to whoever carries them out. -/
structure Agrees (u v : UpdateRequest) : Prop where
  apiKey : u.apiKey = v.apiKey
  formId : u.formId = v.formId
  kind : u.kind = v.kind
  parts : ∀ kind, UpdateKind.ofValue? u.kind = some kind → SameParts kind u v

end UpdateRequest

namespace Publisher

variable {u v : UpdateRequest}

/-- A handler uses the parts of its kind only. -/
theorem handle_congr (p : Publisher) {kind : UpdateKind} (h : UpdateRequest.SameParts kind u v)
    (key : Value) (form : String) : p.handle kind key form u = p.handle kind key form v := by
  cases kind with
  | properties =>
    have hread : u.readProperties = v.readProperties := by
      rw [UpdateRequest.readProperties, h]
      rfl
    simp only [handle, updateProperties, hread]
  | questions =>
    have hupdates : u.readQuestionUpdates = v.readQuestionUpdates := by
      rw [UpdateRequest.readQuestionUpdates, h.1]
      rfl
    have hnew : u.readNewQuestions = v.readNewQuestions := by
      rw [UpdateRequest.readNewQuestions, h.2]
      rfl
    simp only [handle, updateQuestions, hupdates, hnew]
  | conditions =>
    have hread : u.readConditions = v.readConditions := by
      rw [UpdateRequest.readConditions, h]
      rfl
    simp only [handle, updateConditions, hread]

theorem checked_congr (p : Publisher) (h : u.Agrees v) : p.checked u = p.checked v := by
  rw [checked, h.apiKey, h.formId, h.kind]
  rfl

theorem exec_updateForm_congr (p : Publisher) (h : u.Agrees v) (s : Session) :
    (p.updateForm u).exec s = (p.updateForm v).exec s := by
  rw [exec_updateForm_eq, exec_updateForm_eq, ← p.checked_congr h]
  cases hchecked : p.checked u with
  | error cause => rfl
  | ok out =>
    obtain ⟨key, form, kind⟩ := out
    obtain ⟨-, -, -, hkind⟩ := checked_eq_ok_iff.mp hchecked
    dsimp only
    rw [p.handle_congr (h.parts kind hkind)]

end Publisher

/-! ### Bodies -/

/-- The fields of a body that its request depends on, for what it says of the kind of change. -/
def relevantFields (kind : Value) : List String :=
  ["apiKey", "formId", "updateType"] ++
    match UpdateKind.ofValue? kind with
    | some kind => kind.fields
    | none => []

/-- Two objects have the same values, or none, under some keys. -/
def Entries.AgreeOn (keys : List String) (es fs : Entries) : Prop :=
  ∀ key ∈ keys, es.get key = fs.get key

/-- Two bodies that agree on the fields that the request in the first depends on, if they are
objects; otherwise neither of them is one. -/
def BodiesAgree (body other : Value) : Prop :=
  match body.opened, other.opened with
  | .map es, .map fs => Entries.AgreeOn (relevantFields (Entries.get es "updateType")) es fs
  | .map _, _ | _, .map _ => False
  | _, _ => True

section Objects

variable {es fs : Entries}

/-- What is the same in two objects that agree. -/
theorem Entries.AgreeOn.present? {keys : List String} (h : AgreeOn keys es fs) {key : String}
    (hkey : key ∈ keys) : es.present? key = fs.present? key := by
  rw [Entries.present?, Entries.present?, h key hkey]

variable (h : Entries.AgreeOn (relevantFields (es.get "updateType")) es fs)
include h

theorem get_updateType_congr : es.get "updateType" = fs.get "updateType" :=
  h "updateType" (by simp [relevantFields])

/-- The requests in two objects that agree both cannot be read, or agree. -/
theorem UpdateRequest.ofEntries_congr :
    (∃ e, ofEntries es = .error e ∧ ofEntries fs = .error e) ∨
      ∃ u v, ofEntries es = .ok u ∧ ofEntries fs = .ok v ∧ u.Agrees v := by
  have hid : es.present? "formId" = fs.present? "formId" :=
    h.present? (by simp [relevantFields])
  have hkey : es.present? "apiKey" = fs.present? "apiKey" :=
    h.present? (by simp [relevantFields])
  unfold ofEntries
  rw [← hid]
  cases renderOptional (es.present? "formId") with
  | error e => exact Or.inl ⟨e, rfl, rfl⟩
  | ok form =>
    refine Or.inr ⟨_, _, rfl, rfl, hkey, rfl, get_updateType_congr h, fun kind hkind => ?_⟩
    have hfields : ∀ key ∈ kind.fields, es.get key = fs.get key := by
      intro key hmem
      refine h key ?_
      rw [relevantFields, hkind]
      exact List.mem_append_right _ hmem
    cases kind with
    | properties => exact hfields _ (by simp [UpdateKind.fields])
    | questions =>
      exact ⟨hfields _ (by simp [UpdateKind.fields]), hfields _ (by simp [UpdateKind.fields])⟩
    | conditions => exact hfields _ (by simp [UpdateKind.fields])

end Objects

namespace Publisher

/-- A body that is no object is turned down, with or without a key. -/
theorem exec_updateFromBody_of_not_map (p : Publisher) {body : Value}
    (h : ∀ es, body.opened ≠ .map es) (s : Session) :
    (p.updateFromBody body).exec s =
      match resolveKey none p.configuredKey with
      | .error cause => (.error (.rejected cause), s)
      | .ok _ => (.error (.rejected .bodyNotObject), s) := by
  have hkey : bodyKey body = none := by
    unfold bodyKey
    split
    · rename_i es hes
      exact absurd hes (h es)
    · rfl
  have hread : UpdateRequest.read body = .error (.rejected .bodyNotObject) := by
    unfold UpdateRequest.read
    split
    · rename_i es hes
      exact absurd hes (h es)
    · rfl
  rw [exec_updateFromBody_eq, hkey]
  cases resolveKey none p.configuredKey with
  | error cause => rfl
  | ok key => simp only [hread]

/-- Two bodies that agree on the fields that their kind of change uses are carried out alike: with
the same result or error, the same clients and the same calls. -/
theorem exec_updateFromBody_congr (p : Publisher) {body other : Value}
    (h : BodiesAgree body other) (s : Session) :
    (p.updateFromBody body).exec s = (p.updateFromBody other).exec s := by
  unfold BodiesAgree at h
  split at h
  · rename_i es fs hes hfs
    have hkey : bodyKey body = bodyKey other := by
      rw [bodyKey, hes, bodyKey, hfs]
      exact h.present? (by simp [relevantFields])
    rw [exec_updateFromBody_eq, exec_updateFromBody_eq, hkey, UpdateRequest.read, hes,
      UpdateRequest.read, hfs]
    cases resolveKey (bodyKey other) p.configuredKey with
    | error cause => rfl
    | ok key =>
      rcases UpdateRequest.ofEntries_congr h with ⟨e, he, he'⟩ | ⟨u, v, hu, hv, huv⟩
      · simp only [he, he']
      · simp only [hu, hv]
        exact p.exec_updateForm_congr huv s
  · exact h.elim
  · exact h.elim
  · rename_i hbody hother _
    rw [p.exec_updateFromBody_of_not_map hbody, p.exec_updateFromBody_of_not_map hother]

/-- Conditions that could not be read and fields of no meaning do not touch a change of
properties. -/
theorem exec_updateFromBody_congr_of_foreign_fields :
    let p : Publisher := { abortOnFailure := true }
    let body : Value := .object [
      ("apiKey", .text "k"), ("formId", .text "7"), ("updateType", .text "properties"),
      ("properties", .object [("title", .text "New")])]
    let other : Value := .object [
      ("conditions", .text "none"), ("properties", .object [("title", .text "New")]),
      ("newQuestions", .list [.null]), ("updateType", .text "properties"),
      ("questionUpdates", .list [.object [("action", .text "erase")]]), ("formId", .text "7"),
      ("comment", .list []), ("apiKey", .text "k")]
    let s : Session := { replies := [.response 500 "down"] }
    BodiesAgree body other ∧ (p.updateFromBody body).exec s = (p.updateFromBody other).exec s := by
  intro p body other s
  have h : BodiesAgree body other := by
    intro key hkey
    have hfields : key ∈ ["apiKey", "formId", "updateType", "properties"] := hkey
    simp only [List.mem_cons, List.not_mem_nil, or_false] at hfields
    rcases hfields with rfl | rfl | rfl | rfl <;> rfl
  exact ⟨h, p.exec_updateFromBody_congr h s⟩

end Publisher

end FormPublisher
