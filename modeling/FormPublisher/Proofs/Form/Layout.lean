import FormPublisher.Form.Condition
import FormPublisher.Proofs.Form.Numbering
import FormPublisher.Proofs.Outcome

/-!
# The layout of a compiled form

`Document.LaidOut d qs` says what the questions of a form are: they are numbered from one on, their
sections follow each other as in `Document.sectionRow`, and within a section they correspond one to
one and in order to the entries of the document they come from.  Together these leave no room for an
entry to be lost, doubled, moved, or placed in another section.

`compile_eq_ok_iff` says when a document compiles and to what.  Beside widgets whose type can be a
key, this takes texts for the values that the log names (`Document.IsLoggable`): the title, and the
name and type of every widget that is left out.  `exists_laidOut_iff_isLoggable` is the layout of
every document.
-/

namespace FormPublisher

/-! ### Entries and their questions -/

/-- A question that comes from a hidden field. -/
def HiddenField.IsAskedBy (h : HiddenField) (q : Question) : Prop :=
  q.kind = "control_textbox" ∧ q.name = h.name ∧ q.text = .text h.text ∧
    q.attributes.lookup "hidden" = some (.text "Yes")

/-- A question that heads a form with a title. -/
def IsHeaderOf (title : Option Value) (q : Question) : Prop :=
  q.kind = "control_head" ∧ q.name = .text "header" ∧
    q.text = (title.filter Value.isTruthy).getD (.text "Form Title")

/-- A question that comes from an eligibility question. -/
def EligibilityQuestion.IsAskedBy (e : EligibilityQuestion) (q : Question) : Prop :=
  q.kind = "control_radio" ∧ q.name = e.name ∧ q.text = e.text ∧
    q.attributes.lookup "required" = some (.text (if e.required then "Yes" else "No")) ∧
    q.attributes.lookup "options" = some (.text "Yes|No")

/-- A question that comes from the legal text at an index. -/
def LegalText.IsShownBy (b : LegalText) (index : Nat) (q : Question) : Prop :=
  q.kind = "control_text" ∧ q.text = b.content ∧
    q.name = (b.name.filter Value.isTruthy).getD (.text ("legalText" ++ toString index))

/-- A question that asks for a fact about the respondent. -/
def PersonalField.IsAskedBy (f : PersonalField) (q : Question) : Prop :=
  q.kind = f.kind ∧ q.name = .text f.fieldName ∧ q.text = .text f.text ∧
    q.attributes.lookup "required" = some (.text "Yes")

/-- A question that comes from a signature. -/
def Signature.IsAskedBy (s : Signature) (q : Question) : Prop :=
  q.kind = "control_signature" ∧ q.name = s.name ∧ q.text = s.text ∧
    q.attributes.lookup "required" = some (.text (if s.required then "Yes" else "No")) ∧
    q.attributes.lookup "size" = some (.text ((s.size.filter (· ≠ "")).getD "600"))

/-- A question that comes from a widget of a known kind. -/
def Widget.IsPlacedBy (w : Widget) (q : Question) : Prop :=
  ∃ kind, WidgetKind.named? w.type = some kind ∧
    q.kind = "control_widget" ∧ q.name = w.name ∧ q.text = .text "" ∧
    q.attributes.lookup "cfname" = some (.text kind.title) ∧
    q.attributes.lookup "selectedField" = some (.text kind.identifier)

/-- A question that every form has, or none, whatever the document says. -/
def IsFixed (kind text name : String) (q : Question) : Prop :=
  q.kind = kind ∧ q.text = .text text ∧ q.name = .text name

/-! ### The layout -/

/-- How many facts about the respondent are asked for. -/
def PersonalInfo.count (info : PersonalInfo) : Nat :=
  [info.includeName, info.includeAddress, info.includeEmail, info.includePhone].count true

/-- Whether a widget is of a known kind. -/
def Widget.isKnown (w : Widget) : Bool := (WidgetKind.named? w.type).isSome

namespace Document

/-- The widgets of a known kind. -/
def knownWidgets (d : Document) : List Widget := d.widgets.filter Widget.isKnown

/-- The sections of the questions of a form from left to right. -/
def sectionRow (d : Document) : List Section :=
  List.replicate d.hiddenFields.length Section.hidden ++
  [Section.header] ++
  List.replicate d.eligibilityQuestions.length Section.eligibility ++
  (if d.legalTexts = [] then [] else [Section.firstLegal]) ++
  List.replicate d.personalInfo.count Section.personal ++
  [Section.pageBreak] ++
  List.replicate (d.legalTexts.length - 1) Section.legal ++
  List.replicate d.signatures.length Section.signature ++
  (if d.includeCaptcha then [Section.captcha] else []) ++
  [Section.submit] ++
  List.replicate d.knownWidgets.length Section.widget

/-- What the questions of a form are: their positions, their sections, and within each section the
entries of the document that they come from. -/
structure LaidOut (d : Document) (qs : List Question) : Prop where
  positions : ∀ (i : Nat) (hi : i < qs.length), qs[i].position = i + 1
  sections : qs.map Question.part = d.sectionRow
  hidden : List.Forall₂ HiddenField.IsAskedBy d.hiddenFields (Question.ofSection .hidden qs)
  header : ∀ q ∈ Question.ofSection .header qs, IsHeaderOf d.title q
  eligibility : List.Forall₂ EligibilityQuestion.IsAskedBy d.eligibilityQuestions
    (Question.ofSection .eligibility qs)
  firstLegal : List.Forall₂ (fun b q => b.IsShownBy 0 q) (d.legalTexts.take 1)
    (Question.ofSection .firstLegal qs)
  personal : List.Forall₂ PersonalField.IsAskedBy
    ([.name, .address, .email, .phone].filter (PersonalField.isSelected d.personalInfo))
    (Question.ofSection .personal qs)
  pageBreak : ∀ q ∈ Question.ofSection .pageBreak qs,
    IsFixed "control_pagebreak" "Page Break" "pageBreak2" q
  otherLegal : List.Forall₂ (fun b q => b.1.IsShownBy b.2 q) ((d.legalTexts.drop 1).zipIdx 1)
    (Question.ofSection .legal qs)
  signatures : List.Forall₂ Signature.IsAskedBy d.signatures (Question.ofSection .signature qs)
  captcha : ∀ q ∈ Question.ofSection .captcha qs,
    IsFixed "control_captcha" "Please verify that you are human" "captcha" q
  submit : ∀ q ∈ Question.ofSection .submit qs, IsFixed "control_button" "Submit" "submit" q
  widgets : List.Forall₂ Widget.IsPlacedBy d.knownWidgets (Question.ofSection .widget qs)

end Document

/-! ### Compiling -/

/-- Whether a widget can be looked up and, if it is left out, named in the log. -/
def Widget.IsPlaceable (w : Widget) : Prop :=
  w.type.isKey ∧ (w.isKnown = false → w.name.isWritable ∧ w.type.isWritable)

/-- What the log names has a text: the title, and the name and type of a widget that is left out. -/
def Document.IsLoggable (d : Document) : Prop :=
  (∀ t, d.title = some t → t.isWritable) ∧
    ∀ w ∈ d.widgets, w.isKnown = false → w.name.isWritable ∧ w.type.isWritable

/-- The questions that widgets of known kinds make. -/
def placedWidgets (ws : List Widget) : List Question :=
  ws.filterMap fun w => (WidgetKind.named? w.type).map w.question

namespace Document

/-- The questions of each section of a form, not numbered yet. -/
def sectionQuestions (d : Document) : Section → List Question
  | .hidden => d.hiddenFields.map HiddenField.question
  | .header => [headerQuestion d.title]
  | .eligibility => d.eligibilityQuestions.map EligibilityQuestion.question
  | .firstLegal => d.firstLegalQuestions
  | .personal => d.personalInfo.selected.map PersonalField.question
  | .pageBreak => [pageBreakQuestion]
  | .legal => d.otherLegalQuestions
  | .signature => d.signatures.map Signature.question
  | .captcha => if d.includeCaptcha then [captchaQuestion] else []
  | .submit => [submitQuestion]
  | .widget => placedWidgets d.widgets
  | .other _ => []

/-- The questions of a document that compiles. -/
def laidOutQuestions (d : Document) : List Question :=
  Question.number (Section.all.flatMap d.sectionQuestions)

end Document

theorem WidgetKind.ofType_eq_ok_iff {v : Value} {r : Option WidgetKind} :
    WidgetKind.ofType v = .ok r ↔ v.isKey ∧ r = WidgetKind.named? v := by
  unfold WidgetKind.ofType Value.isKey
  cases v.keyObstacle? <;> simp [eq_comm]

theorem Value.exists_render_eq_ok_iff {v : Value} : (∃ s, v.render = .ok s) ↔ v.isWritable := by
  simp [render_eq_ok_iff]

/-- A widget is handled exactly when it is placeable, and then it makes a question exactly when its
kind is known. -/
theorem Widget.question?_eq_ok_iff {w : Widget} {r : Option Question} :
    w.question? = .ok r ↔ w.IsPlaceable ∧ r = (WidgetKind.named? w.type).map w.question := by
  unfold Widget.question? Widget.IsPlaceable
  rw [bind_eq_ok_iff]
  constructor
  · rintro ⟨known, hknown, h⟩
    obtain ⟨hk, rfl⟩ := WidgetKind.ofType_eq_ok_iff.mp hknown
    refine ⟨⟨hk, ?_⟩, ?_⟩
    · -- A widget of no known kind is left out after the log has named it.
      intro hn
      have hn : WidgetKind.named? w.type = none := by simpa [Widget.isKnown] using hn
      rw [hn] at h
      obtain ⟨_, hname, h⟩ := bind_eq_ok_iff.mp h
      obtain ⟨_, htype, _⟩ := bind_eq_ok_iff.mp h
      obtain ⟨s, hs, _⟩ := map_eq_ok_iff.mp hname
      obtain ⟨t, ht, _⟩ := map_eq_ok_iff.mp htype
      exact ⟨Value.exists_render_eq_ok_iff.mp ⟨s, hs⟩, Value.exists_render_eq_ok_iff.mp ⟨t, ht⟩⟩
    · cases hn : WidgetKind.named? w.type with
      | some kind =>
        rw [hn] at h
        exact (Except.ok.inj h).symm
      | none =>
        rw [hn] at h
        obtain ⟨_, _, h⟩ := bind_eq_ok_iff.mp h
        obtain ⟨_, _, h⟩ := bind_eq_ok_iff.mp h
        exact (Except.ok.inj h).symm
  · rintro ⟨⟨hk, hw⟩, rfl⟩
    refine ⟨_, WidgetKind.ofType_eq_ok_iff.mpr ⟨hk, rfl⟩, ?_⟩
    cases hn : WidgetKind.named? w.type with
    | some kind => rfl
    | none =>
      obtain ⟨hname, htype⟩ := hw (by simp [Widget.isKnown, hn])
      obtain ⟨s, hs⟩ := Value.exists_render_eq_ok_iff.mpr hname
      obtain ⟨t, ht⟩ := Value.exists_render_eq_ok_iff.mpr htype
      rw [hs, ht]
      rfl

/-- The widgets of a form are handled exactly when each is placeable. -/
theorem widgetQuestions_eq_ok_iff {ws : List Widget} {qs : List Question} :
    widgetQuestions ws = .ok qs ↔ (∀ w ∈ ws, w.IsPlaceable) ∧ qs = placedWidgets ws := by
  unfold widgetQuestions placedWidgets
  rw [map_eq_ok_iff]
  induction ws generalizing qs with
  | nil =>
    simp only [mapM_eq_ok_iff, List.forall₂_nil_left_iff]
    constructor
    · rintro ⟨_, rfl, rfl⟩
      exact ⟨fun _ hw => absurd hw List.not_mem_nil, rfl⟩
    · rintro ⟨_, rfl⟩
      exact ⟨[], rfl, rfl⟩
  | cons w ws ih =>
    simp only [mapM_eq_ok_iff] at ih ⊢
    constructor
    · rintro ⟨rs, hrs, rfl⟩
      obtain ⟨r, rs', hr, hrs', rfl⟩ := List.forall₂_cons_left_iff.mp hrs
      obtain ⟨hw, rfl⟩ := Widget.question?_eq_ok_iff.mp hr
      obtain ⟨hws, hq⟩ := ih.mp ⟨rs', hrs', rfl⟩
      refine ⟨List.forall_mem_cons.mpr ⟨hw, hws⟩, ?_⟩
      cases hn : WidgetKind.named? w.type <;> simpa [hn] using hq
    · rintro ⟨hw, rfl⟩
      obtain ⟨hw, hws⟩ := List.forall_mem_cons.mp hw
      obtain ⟨rs, hrs, hq⟩ := ih.mpr ⟨hws, rfl⟩
      refine ⟨_ :: rs, .cons (Widget.question?_eq_ok_iff.mpr ⟨hw, rfl⟩) hrs, ?_⟩
      cases hn : WidgetKind.named? w.type <;> simpa [hn] using hq

/-- The text of a value that may be missing exists exactly when the value, if there is one, can be
written. -/
theorem exists_renderOptional_eq_ok_iff {v : Option Value} :
    (∃ s, renderOptional v = .ok s) ↔ ∀ t, v = some t → t.isWritable := by
  cases v with
  | none => exact ⟨nofun, fun _ => ⟨none, rfl⟩⟩
  | some t =>
    constructor
    · rintro ⟨s, hs⟩ t' ht
      obtain rfl := Option.some.inj ht
      obtain ⟨u, hu, _⟩ := map_eq_ok_iff.mp hs
      exact Value.exists_render_eq_ok_iff.mp ⟨u, hu⟩
    · intro h
      obtain ⟨u, hu⟩ := Value.exists_render_eq_ok_iff.mpr (h t rfl)
      exact ⟨some u, map_eq_ok_iff.mpr ⟨u, hu, rfl⟩⟩

namespace Document

/-- Written section by section, the form is the body between the hidden fields and the widgets. -/
theorem flatMap_sectionQuestions (d : Document) :
    Section.all.flatMap d.sectionQuestions =
      d.hiddenFields.map HiddenField.question ++ d.bodyQuestions ++ placedWidgets d.widgets := by
  simp [bodyQuestions, Section.all, sectionQuestions]

theorem questions_eq_ok_iff {d : Document} {qs : List Question} :
    d.questions = .ok qs ↔ (∀ w ∈ d.widgets, w.IsPlaceable) ∧ qs = d.laidOutQuestions := by
  unfold questions laidOutQuestions
  rw [bind_eq_ok_iff, flatMap_sectionQuestions]
  constructor
  · rintro ⟨ws, hws, h⟩
    obtain ⟨hp, rfl⟩ := widgetQuestions_eq_ok_iff.mp hws
    exact ⟨hp, (Except.ok.inj h).symm⟩
  · rintro ⟨hp, rfl⟩
    exact ⟨_, widgetQuestions_eq_ok_iff.mpr ⟨hp, rfl⟩, rfl⟩

/-- A document compiles exactly when all types of its widgets can be keys and the log can be
written, and then to its laid out questions and the condition derived from them. -/
theorem compile_eq_ok_iff {d : Document} {form : CompiledForm} :
    d.compile = .ok form ↔
      (∀ w ∈ d.widgets, w.type.isKey) ∧ d.IsLoggable ∧
        form = ⟨d.laidOutQuestions, Condition.derive d.visibility d.laidOutQuestions⟩ := by
  unfold compile IsLoggable
  rw [bind_eq_ok_iff]
  constructor
  · rintro ⟨qs, hqs, h⟩
    obtain ⟨hp, rfl⟩ := questions_eq_ok_iff.mp hqs
    obtain ⟨_, ht, h⟩ := bind_eq_ok_iff.mp h
    obtain ⟨t, ht, _⟩ := map_eq_ok_iff.mp ht
    refine ⟨fun w hw => (hp w hw).1, ⟨?_, fun w hw => (hp w hw).2⟩, (Except.ok.inj h).symm⟩
    exact exists_renderOptional_eq_ok_iff.mp ⟨t, ht⟩
  · rintro ⟨hk, ⟨ht, hl⟩, rfl⟩
    obtain ⟨s, hs⟩ := exists_renderOptional_eq_ok_iff.mpr ht
    refine ⟨_, questions_eq_ok_iff.mpr ⟨fun w hw => ⟨hk w hw, hl w hw⟩, rfl⟩, ?_⟩
    rw [hs]
    rfl

/-! ### The layout of a document that compiles -/

/-- The questions that are written for a section belong to it. -/
theorem part_of_mem_sectionQuestions (d : Document) :
    ∀ p, ∀ q ∈ d.sectionQuestions p, q.part = p := by
  intro p q hq
  cases p with
  | hidden | eligibility | personal | signature | firstLegal =>
    obtain ⟨_, _, rfl⟩ := List.mem_map.mp hq
    rfl
  | header | pageBreak | submit =>
    rw [List.mem_singleton.mp hq]
    rfl
  | legal =>
    obtain ⟨_, _, rfl⟩ := List.mem_mapIdx.mp hq
    rfl
  | captcha =>
    simp only [sectionQuestions] at hq
    split at hq
    · rw [List.mem_singleton.mp hq]
      rfl
    · cases hq
  | widget =>
    obtain ⟨w, _, hw⟩ := List.mem_filterMap.mp hq
    obtain ⟨_, _, rfl⟩ := Option.map_eq_some_iff.mp hw
    rfl
  | other _ => cases hq

theorem ofSection_flatMap_sectionQuestions (d : Document) {p : Section} (hp : p ∈ Section.all) :
    Question.ofSection p (Section.all.flatMap d.sectionQuestions) = d.sectionQuestions p := by
  rw [Question.ofSection_flatMap d.part_of_mem_sectionQuestions (by decide), if_pos hp]

/-- A section whose unnumbered questions relate to a list one by one does so in the form. -/
theorem forall₂_ofSection_laidOutQuestions (d : Document) {α : Type} {R : α → Question → Prop}
    (hR : ∀ a q n, R a q → R a { q with position := n }) {p : Section} (hp : p ∈ Section.all)
    {xs : List α} (h : List.Forall₂ R xs (d.sectionQuestions p)) :
    List.Forall₂ R xs (Question.ofSection p d.laidOutQuestions) := by
  rw [← d.ofSection_flatMap_sectionQuestions hp] at h
  exact Question.forall₂_ofSection_number hR h

/-- What holds of the unnumbered questions of a section does so in the form. -/
theorem forall_ofSection_laidOutQuestions (d : Document) {P : Question → Prop}
    (hP : ∀ q n, P q → P { q with position := n }) {p : Section} (hp : p ∈ Section.all)
    (h : ∀ q ∈ d.sectionQuestions p, P q) :
    ∀ q ∈ Question.ofSection p d.laidOutQuestions, P q := by
  rw [← d.ofSection_flatMap_sectionQuestions hp] at h
  exact Question.forall_ofSection_number hP h

end Document

theorem PersonalInfo.length_selected (info : PersonalInfo) :
    info.selected.length = info.count := by
  obtain ⟨n, a, e, p⟩ := info
  cases n <;> cases a <;> cases e <;> cases p <;> rfl

theorem length_placedWidgets (ws : List Widget) :
    (placedWidgets ws).length = (ws.filter Widget.isKnown).length := by
  induction ws with
  | nil => rfl
  | cons w ws ih =>
    unfold placedWidgets at ih ⊢
    cases hw : WidgetKind.named? w.type <;> simp [Widget.isKnown, hw, ih]

namespace Document

/-- The sections of a form stand in their row, each as long as the document makes it. -/
theorem map_part_laidOutQuestions (d : Document) :
    d.laidOutQuestions.map Question.part = d.sectionRow := by
  -- The two sections whose length is no length of a list of entries.
  have hfirst : List.replicate (d.sectionQuestions .firstLegal).length Section.firstLegal =
      if d.legalTexts = [] then [] else [Section.firstLegal] := by
    cases h : d.legalTexts <;> simp [sectionQuestions, firstLegalQuestions, h]
  have hcaptcha : List.replicate (d.sectionQuestions .captcha).length Section.captcha =
      if d.includeCaptcha then [Section.captcha] else [] := by
    cases h : d.includeCaptcha <;> simp [sectionQuestions, h]
  rw [laidOutQuestions, Question.map_part_number,
    Question.map_part_flatMap d.part_of_mem_sectionQuestions]
  simp only [Section.all, List.flatMap_cons, List.flatMap_nil, hfirst, hcaptcha]
  simp [sectionQuestions, sectionRow, otherLegalQuestions, PersonalInfo.length_selected,
    length_placedWidgets, knownWidgets]

theorem forall₂_firstLegalQuestions (d : Document) :
    List.Forall₂ (fun b q => LegalText.IsShownBy b 0 q) (d.legalTexts.take 1)
      d.firstLegalQuestions := by
  unfold firstLegalQuestions
  rw [List.forall₂_map_right_iff]
  exact List.forall₂_same.mpr fun b _ => ⟨rfl, rfl, rfl⟩

theorem forall₂_otherLegalQuestions (d : Document) :
    List.Forall₂ (fun b q => LegalText.IsShownBy b.1 b.2 q) ((d.legalTexts.drop 1).zipIdx 1)
      d.otherLegalQuestions := by
  unfold otherLegalQuestions
  rw [List.mapIdx_eq_zipIdx_map, List.zipIdx_eq_map_add, List.forall₂_map_left_iff,
    List.forall₂_map_right_iff]
  refine List.forall₂_same.mpr fun ⟨b, i⟩ _ => ⟨rfl, rfl, ?_⟩
  show _ = (b.name.filter Value.isTruthy).getD (.text ("legalText" ++ toString (1 + i)))
  rw [Nat.add_comm]
  rfl

theorem forall₂_placedWidgets (ws : List Widget) :
    List.Forall₂ Widget.IsPlacedBy (ws.filter Widget.isKnown) (placedWidgets ws) := by
  induction ws with
  | nil => exact .nil
  | cons w ws ih =>
    unfold placedWidgets at ih ⊢
    cases hw : WidgetKind.named? w.type with
    | none =>
      rw [List.filter_cons_of_neg (by simp [Widget.isKnown, hw]),
        List.filterMap_cons_none (by rw [hw]; rfl)]
      exact ih
    | some kind =>
      rw [List.filter_cons_of_pos (by simp [Widget.isKnown, hw]),
        List.filterMap_cons_some (by rw [hw]; rfl)]
      exact .cons ⟨kind, hw, rfl, rfl, rfl, rfl, rfl⟩ ih

/-- The questions of a document that compiles are laid out. -/
theorem laidOut_laidOutQuestions (d : Document) : d.LaidOut d.laidOutQuestions where
  positions := Question.position_getElem_number _
  sections := d.map_part_laidOutQuestions
  hidden := by
    refine d.forall₂_ofSection_laidOutQuestions (fun _ _ _ h => h) (by decide) ?_
    rw [sectionQuestions, List.forall₂_map_right_iff]
    exact List.forall₂_same.mpr fun h _ => ⟨rfl, rfl, rfl, rfl⟩
  header :=
    d.forall_ofSection_laidOutQuestions (fun _ _ h => h) (by decide)
      (List.forall_mem_singleton.mpr ⟨rfl, rfl, rfl⟩)
  eligibility := by
    refine d.forall₂_ofSection_laidOutQuestions (fun _ _ _ h => h) (by decide) ?_
    rw [sectionQuestions, List.forall₂_map_right_iff]
    exact List.forall₂_same.mpr fun e _ => ⟨rfl, rfl, rfl, rfl, rfl⟩
  firstLegal :=
    d.forall₂_ofSection_laidOutQuestions (fun _ _ _ h => h) (by decide)
      d.forall₂_firstLegalQuestions
  personal := by
    refine d.forall₂_ofSection_laidOutQuestions (fun _ _ _ h => h) (by decide) ?_
    rw [sectionQuestions, List.forall₂_map_right_iff]
    refine List.forall₂_same.mpr fun f _ => ⟨rfl, rfl, rfl, ?_⟩
    cases f <;> rfl
  pageBreak :=
    d.forall_ofSection_laidOutQuestions (fun _ _ h => h) (by decide)
      (List.forall_mem_singleton.mpr ⟨rfl, rfl, rfl⟩)
  otherLegal :=
    d.forall₂_ofSection_laidOutQuestions (fun _ _ _ h => h) (by decide)
      d.forall₂_otherLegalQuestions
  signatures := by
    refine d.forall₂_ofSection_laidOutQuestions (fun _ _ _ h => h) (by decide) ?_
    rw [sectionQuestions, List.forall₂_map_right_iff]
    exact List.forall₂_same.mpr fun s _ => ⟨rfl, rfl, rfl, rfl, rfl⟩
  captcha := by
    refine d.forall_ofSection_laidOutQuestions (fun _ _ h => h) (by decide) ?_
    simp only [sectionQuestions]
    split
    · exact List.forall_mem_singleton.mpr ⟨rfl, rfl, rfl⟩
    · exact fun _ hq => absurd hq List.not_mem_nil
  submit :=
    d.forall_ofSection_laidOutQuestions (fun _ _ h => h) (by decide)
      (List.forall_mem_singleton.mpr ⟨rfl, rfl, rfl⟩)
  widgets :=
    d.forall₂_ofSection_laidOutQuestions (fun _ _ _ h => h) (by decide)
      (forall₂_placedWidgets d.widgets)

end Document

end FormPublisher
