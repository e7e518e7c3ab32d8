import FormPublisher.File.Load
import FormPublisher.Proofs.Json.Reader
import FormPublisher.Proofs.Request.Update
import FormPublisher.Proofs.Yaml.Meaning

/-!
# What is loaded is proper

The mapping in a file is proper, be it JSON or not (`isProper_of_loadMapping`), and so are the parts
of a request to change a form, whether it is loaded from a file or comes as a JSON body
(`UpdateRequest.isProper_of_loadUpdate`, `UpdateRequest.isProper_of_read`).  So the keys of every
mapping that is sent to the provider as fields of a form differ: those of the properties and those
of the data of a question (`UpdateRequest.IsProper.data`).
-/

namespace FormPublisher

/-! ### Mappings in files -/

theorem isProper_of_readConfiguration {name s : String} {v : Value}
    (h : readConfiguration name s = .ok v) : v.IsProper := by
  have hread := mapError_eq_ok_iff.mp h
  split at hread
  · exact Value.isProper_of_isJson (Json.isJson_of_read hread)
  · exact Yaml.isProper_of_read hread

/-- The keys of the mapping in a file differ, and so do those of all mappings inside it. -/
theorem isProper_of_loadMapping {path : Path} {entry : Option FileEntry} {es : Entries}
    (h : loadMapping path entry = .ok es) : (Value.map es).IsProper := by
  unfold loadMapping at h
  split at h
  · cases h
  · cases h
  · cases h
  · obtain ⟨s, -, h⟩ := bind_eq_ok_iff.mp h
    obtain ⟨v, hv, h⟩ := bind_eq_ok_iff.mp h
    split at h
    case h_1 data hdata =>
      obtain rfl := Except.ok.inj h
      exact hdata ▸ (isProper_of_readConfiguration hv).opened
    case h_2 => cases h

/-! ### Requests to change a form -/

namespace UpdateRequest

/-- The parts of a request in which mappings stand that are sent as fields of a form. -/
structure IsProper (u : UpdateRequest) : Prop where
  properties : u.properties.IsProper
  questionUpdates : u.questionUpdates.IsProper

variable {u : UpdateRequest}

theorem isProper_of_ofEntries {data : Entries} (hdata : (Value.map data).IsProper)
    (h : ofEntries data = .ok u) : u.IsProper := by
  have hvalues := (hdata.entries (Value.opened_map data)).2
  obtain ⟨formId, -, h⟩ := bind_eq_ok_iff.mp h
  obtain rfl := Except.ok.inj h
  exact ⟨Entries.isProper_get hvalues "properties", Entries.isProper_get hvalues "questionUpdates"⟩

theorem isProper_of_loadUpdate {path : Path} {entry : Option FileEntry}
    (h : loadUpdate path entry = .ok u) : u.IsProper := by
  obtain ⟨data, hdata, h⟩ := bind_eq_ok_iff.mp h
  exact isProper_of_ofEntries (isProper_of_loadMapping hdata) (mapError_eq_ok_iff.mp h)

/-- A body is proper if it comes as JSON. -/
theorem isProper_of_read {body : Value} (hbody : body.IsProper) (h : read body = .ok u) :
    u.IsProper := by
  unfold read at h
  split at h
  case h_1 data hdata =>
    exact isProper_of_ofEntries (hdata ▸ hbody.opened) (mapError_eq_ok_iff.mp h)
  case h_2 => cases h

/-- The data of every question that a request changes is proper. -/
theorem IsProper.data (hu : u.IsProper) {qs : List QuestionUpdate}
    (h : u.readQuestionUpdates = .ok qs) : ∀ q ∈ qs, q.data.IsProper := by
  obtain ⟨ess, hess, h⟩ := bind_eq_ok_iff.mp h
  intro q hq
  obtain ⟨es, hes, hread⟩ := exists_of_mem_mapM h hq
  obtain ⟨items, item, hitems, hitem, hopened⟩ :=
    exists_of_mem_entryList (mapError_eq_ok_iff.mp hess) hes
  have hvalues := ((hu.questionUpdates.items hitems item hitem).entries hopened).2
  rw [QuestionUpdate.read_eq] at hread
  obtain ⟨question, -, hread⟩ := bind_eq_ok_iff.mp hread
  obtain ⟨text, -, hread⟩ := bind_eq_ok_iff.mp hread
  obtain ⟨action, -, hread⟩ := bind_eq_ok_iff.mp hread
  obtain rfl := Except.ok.inj hread
  exact Entries.isProper_get hvalues "questionData"

end UpdateRequest

end FormPublisher
