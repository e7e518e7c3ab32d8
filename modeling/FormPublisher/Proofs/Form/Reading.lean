import FormPublisher.Proofs.Form.References
import FormPublisher.Proofs.Request.Document

/-!
# Documents that come as JSON

Whatever a JSON body says, a document that is read out of it can be compiled and put into a payload,
with one exception: a widget whose type is a list or an object cannot be looked up among the known
types (`compile_of_read`).  All other values are taken as they come, since the names and types that
the log may have to name are JSON values and can be written.
-/

namespace FormPublisher

/-- Among JSON values only lists and objects can be no keys. -/
theorem Value.keyObstacle?_of_isJson {v : Value} (hv : v.isJson) :
    v.keyObstacle? = if v.kind = .list ∨ v.kind = .map then some v.kind else none := by
  cases v with
  | scalar s => cases s <;> rfl
  | list _ | map _ => rfl
  | pair _ _ | set _ | knot _ _ | back _ _ => simp [Value.isJson] at hv

theorem Value.isKey_iff_of_isJson {v : Value} (hv : v.isJson) :
    v.isKey ↔ v.kind ≠ .list ∧ v.kind ≠ .map := by
  rw [isKey, keyObstacle?_of_isJson hv, ← not_or]
  split <;> simp [*]

/-! ### What is read -/

/-- A widget whose type and name are JSON values. -/
def Widget.IsJson (w : Widget) : Prop := w.type.isJson ∧ w.name.isJson

theorem Widget.isJson_of_read {es : Entries} (hes : areJsonEntries es) {w : Widget}
    (h : Widget.read es = .ok w) : w.IsJson := by
  obtain ⟨type, htype, h⟩ := bind_eq_ok_iff.mp h
  obtain ⟨name, hname, h⟩ := bind_eq_ok_iff.mp h
  obtain rfl := Except.ok.inj h
  exact ⟨Entries.isJson_of_require hes (mapError_eq_ok_iff.mp htype),
    Entries.isJson_of_require hes (mapError_eq_ok_iff.mp hname)⟩

namespace Document

variable {data : Entries} {d : Document}

/-- The title of a document is the one in the body, and its widgets are read one by one. -/
theorem widgets_of_ofEntries (h : ofEntries data = .ok d) :
    d.title = data.present? "title" ∧
      ∃ entries, data.entriesAt "widgets" = .ok entries ∧
        entries.mapM Widget.read = .ok d.widgets := by
  have hparts := ofEntries_eq_ok_iff.mp h
  exact ⟨hparts.title, hparts.widgets⟩

/-- The title and the types and names of the widgets of a document are JSON values. -/
theorem isJson_of_ofEntries (hdata : areJsonEntries data) (h : ofEntries data = .ok d) :
    (∀ t, d.title = some t → t.isJson) ∧ ∀ w ∈ d.widgets, w.IsJson := by
  obtain ⟨htitle, entries, hentries, hwidgets⟩ := widgets_of_ofEntries h
  refine ⟨fun t ht => Entries.isJson_of_present? hdata (htitle ▸ ht), fun w hw => ?_⟩
  obtain ⟨es, hes, hread⟩ := exists_of_mem_mapM hwidgets hw
  exact Widget.isJson_of_read (Entries.areJsonEntries_of_entriesAt hdata hentries es hes) hread

/-- Whatever the log names of a document that comes as JSON can be written. -/
theorem isLoggable_of_ofEntries (hdata : areJsonEntries data) (h : ofEntries data = .ok d) :
    d.IsLoggable := by
  obtain ⟨htitle, hwidgets⟩ := isJson_of_ofEntries hdata h
  refine ⟨fun t ht => Value.isWritable_of_isJson (htitle t ht), fun w hw _ => ?_⟩
  exact ⟨Value.isWritable_of_isJson (hwidgets w hw).2,
    Value.isWritable_of_isJson (hwidgets w hw).1⟩

end Document

/-! ### What it comes to -/

/-- The first widget that cannot be looked up keeps the questions from being laid out. -/
theorem widgetQuestions_of_obstacle {before after : List Widget} {w : Widget} {kind : Kind}
    (hbefore : ∀ v ∈ before, v.IsPlaceable) (hw : w.type.keyObstacle? = some kind) :
    widgetQuestions (before ++ w :: after) = .error (.notKey kind) := by
  have hmapM : (before ++ w :: after).mapM Widget.question? = .error (.notKey kind) := by
    induction before with
    | nil =>
      have hquestion : w.question? = .error (.notKey kind) := by
        rw [Widget.question?, WidgetKind.ofType, hw]
        rfl
      rw [List.nil_append, List.mapM_cons, hquestion, error_bind]
    | cons v before ih =>
      obtain ⟨hv, hbefore⟩ := List.forall_mem_cons.mp hbefore
      rw [List.cons_append, List.mapM_cons, Widget.question?_eq_ok_iff.mpr ⟨hv, rfl⟩, ok_bind,
        ih hbefore, error_bind]
  rw [widgetQuestions, hmapM, map_error]

namespace Document

theorem exists_ofEntries_of_read {body : Value} (hbody : body.isJson) {d : Document}
    (h : Document.read body = .ok d) : ∃ data, body = .map data ∧ ofEntries data = .ok d := by
  unfold read at h
  rw [Value.opened_of_isJson hbody] at h
  split at h
  · exact ⟨_, rfl, h⟩
  · cases h

/-- A document that is read out of a JSON body is laid out and put into a payload exactly when no
type of a widget is a list or an object; otherwise the first such type cannot be looked up. -/
theorem compile_of_read {body : Value} (hbody : body.isJson) {d : Document}
    (h : Document.read body = .ok d) :
    ((∃ form, d.compile = .ok form ∧ d.LaidOut form.questions ∧
        ∀ ids, ∃ payload ids', (d.assemble form).run.run ids = (.ok payload, ids')) ↔
      ∀ w ∈ d.widgets, w.type.kind ≠ .list ∧ w.type.kind ≠ .map) ∧
    ∀ before w after, d.widgets = before ++ w :: after →
      (∀ v ∈ before, v.type.kind ≠ .list ∧ v.type.kind ≠ .map) →
      (w.type.kind = .list ∨ w.type.kind = .map) → d.compile = .error (.notKey w.type.kind) := by
  obtain ⟨data, rfl, hread⟩ := exists_ofEntries_of_read hbody h
  have hlog := isLoggable_of_ofEntries hbody hread
  have hjson : ∀ w ∈ d.widgets, w.type.isJson := fun w hw =>
    ((isJson_of_ofEntries hbody hread).2 w hw).1
  refine ⟨⟨?_, fun hkinds => ?_⟩, fun before w after hwidgets hbefore hw => ?_⟩
  · rintro ⟨form, hform, -⟩ w hw
    exact (Value.isKey_iff_of_isJson (hjson w hw)).mp ((compile_eq_ok_iff.mp hform).1 w hw)
  · have hkeys : ∀ w ∈ d.widgets, w.type.isKey := fun w hw =>
      (Value.isKey_iff_of_isJson (hjson w hw)).mpr (hkinds w hw)
    have hconditions : ∀ c ∈ d.compiledForm.conditions, c.IsJson := fun c hc =>
      (Condition.isJson_and_isPlain_of_mem_derive hc).1
    refine ⟨d.compiledForm, compile_eq_ok_iff.mpr ⟨hkeys, hlog, rfl⟩,
      d.laidOut_laidOutQuestions, fun ids => ?_⟩
    obtain ⟨payload, ids', hrun, -⟩ := gives_assemble d.compiledForm hconditions ids
    exact ⟨payload, ids', hrun⟩
  · have hobstacle : w.type.keyObstacle? = some w.type.kind := by
      rw [Value.keyObstacle?_of_isJson (hjson w (by simp [hwidgets])), if_pos hw]
    have hplaceable : ∀ v ∈ before, v.IsPlaceable := fun v hv =>
      have hmem : v ∈ d.widgets := by simp [hwidgets, hv]
      ⟨(Value.isKey_iff_of_isJson (hjson v hmem)).mpr (hbefore v hv), hlog.2 v hmem⟩
    rw [compile, questions, hwidgets, widgetQuestions_of_obstacle hplaceable hobstacle, error_bind,
      error_bind]

/-- Widgets of unknown types that are no texts are skipped, and the form is put into a payload. -/
theorem compile_of_read_of_false_type :
    let body : Value := .object [
      ("title", .list [.text "Survey"]),
      ("widgets", .list [
        .object [("type", .bool false), ("name", .list [.null])],
        .object [("type", .text "beacon"), ("name", .object [("n", .text "x")])]])]
    ∃ d, Document.read body = .ok d ∧ ∃ form, d.compile = .ok form ∧ d.LaidOut form.questions ∧
      ∀ ids, ∃ payload ids', (d.assemble form).run.run ids = (.ok payload, ids') := by
  intro body
  have hread : Document.read body = .ok _ := rfl
  exact ⟨_, hread, (compile_of_read (by decide) hread).1.mpr (by decide)⟩

/-- A widget whose type is a list is accepted, but keeps the form from being compiled. -/
theorem compile_of_list_type :
    let body : Value := .object [
      ("widgets", .list [.object [("type", .list [.text "userAgent"]), ("name", .text "n")]])]
    body.isJson ∧ ∃ d, Document.read body = .ok d ∧ d.compile = .error (.notKey .list) := by
  intro body
  exact ⟨by decide, { widgets := [{ type := .list [.text "userAgent"], name := .text "n" }] }, rfl,
    rfl⟩

end Document

end FormPublisher
