import FormPublisher.Provider.Client
import Mathlib

/-!
# What a call addresses

The provider knows from the method and the path of a call what it is about: the properties of a form,
one of its questions, or its questions as a whole (`Target`).  The identifiers of forms and questions
go into the path as they are, so it has to be asked whether the target can be told from the call.

It can, if no identifier of a form has a slash in it, whatever the identifiers of questions are.
With slashes there is exactly one way to mistake a target for another (`Target.RunsInto`): the
identifier of a form begins with that of another form and the word that leads on to a question, and
what is left of the path is taken for the identifier of that question (`Client.call_eq_iff`).
-/

namespace FormPublisher

/-! ### Targets -/

/-- What is addressed at a form that exists. -/
inductive Target where
  | properties (form : String)
  | question (form question : String)
  | deletion (form question : String)
  | additions (form : String)
  deriving DecidableEq, Repr, Inhabited

/-- The target of a request; one to create a form has none. -/
def Request.target? : Request → Option Target
  | createForm _ => none
  | updateProperties form _ => some (.properties form)
  | updateQuestion form question _ => some (.question form question)
  | deleteQuestion form question => some (.deletion form question)
  | addQuestions form _ => some (.additions form)

namespace Target

/-- The form that is addressed. -/
def form : Target → String
  | properties form | question form _ | deletion form _ | additions form => form

/-- The question that is addressed, if it is one. -/
def question? : Target → Option String
  | question _ q | deletion _ q => some q
  | properties _ | additions _ => none

/-- The method by which a target is addressed. -/
def method : Target → Method
  | properties _ | question _ _ => .post
  | deletion _ _ => .delete
  | additions _ => .put

/-- What follows the form in the path. -/
def part : Target → String
  | properties _ => "properties"
  | question _ q | deletion _ q => "question/" ++ q
  | additions _ => "questions"

/-- The path of the first target is also one of the second: the identifier of its form goes on behind
that of the other form as if a question of that form came next, and with all that follows it is the
identifier of this question. -/
def RunsInto (t u : Target) : Prop :=
  t.method = u.method ∧
    ∃ more : String, t.form ++ "/" = u.form ++ "/question/" ++ more ∧
      u.question? = some (more ++ t.part)

variable {t u : Target} {r s : Request}

/-! ### Paths -/

theorem method_of_target? (h : r.target? = some t) : r.method = t.method := by
  cases r with
  | createForm _ => cases h
  | updateProperties _ _ | updateQuestion _ _ _ | deleteQuestion _ _ | addQuestions _ _ =>
    obtain rfl := Option.some.inj h
    rfl

theorem path_of_target? (h : r.target? = some t) :
    r.path = "/form/" ++ (t.form ++ "/" ++ t.part) := by
  cases r with
  | createForm _ => cases h
  | updateProperties _ _ | addQuestions _ _ =>
    obtain rfl := Option.some.inj h
    simp only [Request.path, form, part, String.append_assoc]
    rfl
  | updateQuestion _ q _ | deleteQuestion _ q =>
    obtain rfl := Option.some.inj h
    have hword : "/question/" ++ q = "/" ++ ("question/" ++ q) := by
      rw [← String.append_assoc]
      rfl
    simp only [Request.path, form, part, String.append_assoc, hword]

theorem part_of_question? {q : String} (h : u.question? = some q) : u.part = "question/" ++ q := by
  cases u with
  | properties _ | additions _ => cases h
  | question _ _ | deletion _ _ =>
    obtain rfl := Option.some.inj h
    rfl

/-- Only behind the word for a question there is a slash. -/
theorem exists_question?_of_slash_mem_part (h : '/' ∈ t.part.toList) :
    ∃ q, t.question? = some q := by
  cases t with
  | properties _ => exact absurd h (by simp [part])
  | additions _ => exact absurd h (by simp [part])
  | question _ q | deletion _ q => exact ⟨q, rfl⟩

theorem slash_mem_part_of_question? {q : String} (h : t.question? = some q) :
    '/' ∈ t.part.toList := by
  rw [part_of_question? h, String.toList_append]
  exact List.mem_append_left _ (by decide)

/-- A target is told by its method, its form and what follows the form. -/
theorem eq_of_part_eq (hmethod : t.method = u.method) (hform : t.form = u.form)
    (hpart : t.part = u.part) : t = u := by
  have hquestion : t.question? = u.question? := by
    cases ht : t.question? with
    | some q =>
      obtain ⟨q', hu⟩ := exists_question?_of_slash_mem_part (hpart ▸ slash_mem_part_of_question? ht)
      rw [part_of_question? ht, part_of_question? hu] at hpart
      rw [hu, (String.append_right_inj _).mp hpart]
    | none =>
      cases hu : u.question? with
      | none => rfl
      | some q' =>
        obtain ⟨q, ht'⟩ :=
          exists_question?_of_slash_mem_part (hpart ▸ slash_mem_part_of_question? hu)
        rw [ht] at ht'
        cases ht'
  -- The method and whether there is a question tell what kind of target it is.
  cases t <;> cases u <;> simp_all [method, form, question?]

/-! ### Paths that coincide -/

/-- A text is divided at a mark in one way only, unless the mark is in one of the parts. -/
theorem append_cons_eq_cases {α : Type} {c : α} {as bs xs ys : List α}
    (h : as ++ c :: xs = bs ++ c :: ys) :
    (as = bs ∧ xs = ys) ∨ (∃ zs, as = bs ++ c :: zs ∧ ys = zs ++ c :: xs) ∨
      ∃ zs, bs = as ++ c :: zs ∧ xs = zs ++ c :: ys := by
  rcases List.append_eq_append_iff.mp h with ⟨zs, rfl, hxs⟩ | ⟨zs, rfl, hys⟩
  · cases zs with
    | nil => exact .inl ⟨(List.append_nil as).symm, (List.cons.inj hxs).2⟩
    | cons z zs =>
      obtain ⟨rfl, rfl⟩ := List.cons.inj hxs
      exact .inr (.inr ⟨zs, rfl, rfl⟩)
  · cases zs with
    | nil => exact .inl ⟨List.append_nil bs, (List.cons.inj hys).2.symm⟩
    | cons z zs =>
      obtain ⟨rfl, rfl⟩ := List.cons.inj hys
      exact .inr (.inl ⟨zs, rfl, rfl⟩)

/-- If the form of one target goes on with a slash where that of the other ends, the rest of it
begins like the address of a question. -/
theorem runsInto_of_form_eq {zs : List Char} (hmethod : t.method = u.method)
    (hform : t.form.toList = u.form.toList ++ '/' :: zs)
    (hpart : u.part.toList = zs ++ '/' :: t.part.toList) : t.RunsInto u := by
  have hslash : '/' ∈ u.part.toList := by
    rw [hpart]
    exact List.mem_append_right _ List.mem_cons_self
  obtain ⟨q, hq⟩ := exists_question?_of_slash_mem_part hslash
  have hword : "question".toList ++ '/' :: q.toList = zs ++ '/' :: t.part.toList := by
    rw [← hpart, part_of_question? hq, String.toList_append]
    rfl
  refine ⟨hmethod, ?_⟩
  simp only [hq, Option.some.injEq, ← String.toList_inj, String.toList_append, hform]
  -- The word for a question has no slash in it, so it is the end of the form or is followed there
  -- by a slash.
  rcases append_cons_eq_cases hword with ⟨rfl, hrest⟩ | ⟨ws, hws, -⟩ | ⟨ws, rfl, hrest⟩
  · exact ⟨"", by simp, by simp [hrest]⟩
  · have hmem : '/' ∈ "question".toList := by
      rw [hws]
      exact List.mem_append_right _ List.mem_cons_self
    exact absurd hmem (by decide)
  · exact ⟨String.ofList (ws ++ ['/']), by simp, by simp [hrest]⟩

theorem path_eq_of_runsInto (h : t.RunsInto u) :
    t.form ++ "/" ++ t.part = u.form ++ "/" ++ u.part := by
  obtain ⟨-, more, hform, hquestion⟩ := h
  have hword : "/question/" = "/" ++ "question/" := rfl
  rw [part_of_question? hquestion, hform, hword]
  simp only [String.append_assoc]

/-- A form that goes on like this has a slash in its identifier. -/
theorem slash_mem_form_of_runsInto (h : t.RunsInto u) : '/' ∈ t.form.toList := by
  obtain ⟨-, more, hform, -⟩ := h
  have hlist : t.form.toList ++ '/' :: [] =
      u.form.toList ++ '/' :: ("question/".toList ++ more.toList) := by
    simpa [← String.toList_inj] using hform
  rcases append_cons_eq_cases hlist with ⟨-, hnil⟩ | ⟨zs, hzs, -⟩ | ⟨zs, -, hnil⟩
  · simp at hnil
  · rw [hzs]
    exact List.mem_append_right _ List.mem_cons_self
  · simp at hnil

/-- Two targets have the same method and the same path exactly when they are the same or one of them
runs into the other. -/
theorem path_eq_iff :
    t.method = u.method ∧ t.form ++ "/" ++ t.part = u.form ++ "/" ++ u.part ↔
      t = u ∨ t.RunsInto u ∨ u.RunsInto t := by
  constructor
  · rintro ⟨hmethod, hpath⟩
    have hlist : t.form.toList ++ '/' :: t.part.toList =
        u.form.toList ++ '/' :: u.part.toList := by
      simpa [← String.toList_inj] using hpath
    rcases append_cons_eq_cases hlist with ⟨hform, hpart⟩ | ⟨zs, hform, hpart⟩ | ⟨zs, hform, hpart⟩
    · exact .inl (eq_of_part_eq hmethod (String.toList_inj.mp hform) (String.toList_inj.mp hpart))
    · exact .inr (.inl (runsInto_of_form_eq hmethod hform hpart))
    · exact .inr (.inr (runsInto_of_form_eq hmethod.symm hform hpart))
  · rintro (rfl | h | h)
    · exact ⟨rfl, rfl⟩
    · exact ⟨h.1, path_eq_of_runsInto h⟩
    · exact ⟨h.1.symm, (path_eq_of_runsInto h).symm⟩

end Target

/-! ### Calls that coincide -/

namespace Client

/-- At one address two calls have the same method and the same URL exactly when they have the same
target or the target of one runs into that of the other; and if no identifier of a form has a slash
in it, the target can be told from the call. -/
theorem call_eq_iff_target {c c' : Client} (hurl : c.apiUrl = c'.apiUrl) {r s : Request}
    {t u : Target} (ht : r.target? = some t) (hu : s.target? = some u) :
    ((c.call r).method = (c'.call s).method ∧ (c.call r).url = (c'.call s).url ↔
      t = u ∨ t.RunsInto u ∨ u.RunsInto t) ∧
    ('/' ∉ t.form.toList → '/' ∉ u.form.toList → (c.call r).method = (c'.call s).method →
      (c.call r).url = (c'.call s).url → t = u) := by
  have hcoincide : (c.call r).method = (c'.call s).method ∧ (c.call r).url = (c'.call s).url ↔
      t = u ∨ t.RunsInto u ∨ u.RunsInto t := by
    rw [← Target.path_eq_iff, ← Target.method_of_target? ht, ← Target.method_of_target? hu]
    simp only [call, hurl, Target.path_of_target? ht, Target.path_of_target? hu,
      String.append_right_inj]
  refine ⟨hcoincide, fun htslash huslash hmethod hsame => ?_⟩
  rcases hcoincide.mp ⟨hmethod, hsame⟩ with h | h | h
  · exact h
  · exact absurd (Target.slash_mem_form_of_runsInto h) htslash
  · exact absurd (Target.slash_mem_form_of_runsInto h) huslash

/-- The word that leads on to a question can end the identifier of a form and begin that of a
question, and then it is not known which of them it belongs to. -/
theorem call_eq_iff_target_of_shared_word :
    let c : Client := { apiKey := .text "k" }
    let r : Request := .deleteQuestion "7" "question/5"
    let s : Request := .deleteQuestion "7/question" "5"
    r.target? = some (.deletion "7" "question/5") ∧
      s.target? = some (.deletion "7/question" "5") ∧
      Target.RunsInto (.deletion "7/question" "5") (.deletion "7" "question/5") ∧
      (c.call r).url = (c.call s).url := by
  intro c r s
  have hinto : Target.RunsInto (.deletion "7/question" "5") (.deletion "7" "question/5") :=
    ⟨rfl, "", rfl, rfl⟩
  exact ⟨rfl, rfl, hinto, ((call_eq_iff_target rfl rfl rfl).1.mpr (.inr (.inr hinto))).2⟩

/-- To change the question `5/properties` of the form `7` is the same call as to replace the
properties of the form `7/question/5`. -/
theorem call_updateQuestion_of_slash :
    let c : Client := { apiKey := .text "k" }
    let r : Request := .updateQuestion "7" "5/properties" [("question[text]", "Age?")]
    let s : Request := .updateProperties "7/question/5" [("properties[title]", "Intake")]
    (c.call r).method = (c.call s).method ∧ (c.call r).url = (c.call s).url ∧
      r.target? ≠ s.target? :=
  ⟨rfl, by decide +kernel, by decide⟩

end Client

end FormPublisher
