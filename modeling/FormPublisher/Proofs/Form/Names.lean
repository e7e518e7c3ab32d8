import FormPublisher.Proofs.Form.Layout
import Mathlib

/-!
# The names of the questions of a form

A question is named by the document (`Document.ownNames`) or, where the document gives no name, by
the form itself (`Document.generatedNames`).  The questions of a form have these names and no others
(`names_perm`).  The generated ones never clash with each other, however many legal texts there are,
so whether the names of a form are distinct is a matter of the names that the document gives
(`names_pairwise_iff`).

A name may be any value, and there is more than one view of which values are the same name: whether
the integer one is the same as the decimal one, for instance.  `IsSameness` says what is needed of
such a view.
-/

namespace FormPublisher

/-! ### The names that are there -/

/-- A view of which values are the same name: it does not matter which of two comes first, and
different texts are different names. -/
structure IsSameness (same : Value → Value → Prop) : Prop where
  symm : ∀ {v w : Value}, same v w → same w v
  eq_of_text : ∀ {s t : String}, same (.text s) (.text t) → s = t

theorem isSameness_eq : IsSameness (· = ·) where
  symm := Eq.symm
  eq_of_text h := Scalar.text.inj (Value.scalar.inj h)

/-- The name that a legal text has of its own; an empty one counts as none. -/
def LegalText.ownName? (b : LegalText) : Option Value := b.name.filter Value.isTruthy

/-- The name of the legal text at an index that has none of its own. -/
def defaultLegalName (index : Nat) : String := "legalText" ++ toString index

namespace Document

/-- The names that a document gives: those of hidden fields, of eligibility questions, of legal texts
that have one, of signatures, and of widgets of a known kind. -/
def ownNames (d : Document) : List Value :=
  d.hiddenFields.map HiddenField.name ++
  d.eligibilityQuestions.map EligibilityQuestion.name ++
  d.legalTexts.filterMap LegalText.ownName? ++
  d.signatures.map Signature.name ++
  d.knownWidgets.map Widget.name

/-- The names of the legal texts that have none of their own, made from their indices. -/
def defaultLegalNames (d : Document) : List String :=
  (d.legalTexts.zipIdx.filter fun b => b.1.ownName?.isNone).map fun b => defaultLegalName b.2

/-- The names that a form makes up for a document. -/
def generatedNames (d : Document) : List String :=
  ["header", "pageBreak2", "submit"] ++ (if d.includeCaptcha then ["captcha"] else []) ++
  d.personalInfo.selected.map PersonalField.fieldName ++ d.defaultLegalNames

/-! ### All names of a form -/

/-- Legal texts have their own names and default ones. -/
theorem perm_legalNames (bs : List LegalText) (start : Nat) :
    ((bs.zipIdx start).map fun b => b.1.ownName?.getD (.text (defaultLegalName b.2))).Perm
      (bs.filterMap LegalText.ownName? ++
        ((bs.zipIdx start).filter fun b => b.1.ownName?.isNone).map fun b =>
          Value.text (defaultLegalName b.2)) := by
  induction bs generalizing start with
  | nil => exact .refl _
  | cons b bs ih =>
    rw [List.zipIdx_cons, List.map_cons]
    cases hb : b.ownName? with
    | some n =>
      rw [List.filterMap_cons_some hb, List.filter_cons_of_neg (by simp [hb])]
      exact (ih (start + 1)).cons n
    | none =>
      rw [List.filterMap_cons_none hb, List.filter_cons_of_pos (by simp [hb])]
      exact ((ih (start + 1)).cons _).trans List.perm_middle.symm

/-- What is related to questions by a name, one by one and in order, gives their names. -/
theorem map_name_eq_of_forall₂ {α : Type} {R : α → Question → Prop} {name : α → Value}
    (hR : ∀ {a q}, R a q → q.name = name a) {xs : List α} {qs : List Question}
    (h : List.Forall₂ R xs qs) : qs.map Question.name = xs.map name := by
  induction h with
  | nil => rfl
  | cons ha _ ih => rw [List.map_cons, List.map_cons, hR ha, ih]

/-- The legal texts before and after the personal questions are named by one count. -/
theorem map_name_legalQuestions (d : Document) :
    d.firstLegalQuestions.map Question.name ++ d.otherLegalQuestions.map Question.name =
      d.legalTexts.zipIdx.map fun b => b.1.ownName?.getD (.text (defaultLegalName b.2)) := by
  rw [map_name_eq_of_forall₂ (fun h => h.2.2) d.forall₂_firstLegalQuestions,
    map_name_eq_of_forall₂ (fun h => h.2.2) d.forall₂_otherLegalQuestions]
  cases d.legalTexts with
  | nil => rfl
  | cons b bs => rfl

theorem map_name_number (qs : List Question) :
    (Question.number qs).map Question.name = qs.map Question.name :=
  List.ext_getElem (by simp [Question.number]) fun i _ _ => by simp [Question.number]

theorem map_name_placedWidgets (d : Document) :
    (placedWidgets d.widgets).map Question.name = d.knownWidgets.map Widget.name :=
  map_name_eq_of_forall₂ (fun h => h.choose_spec.2.2.1) (forall₂_placedWidgets d.widgets)

/-- The names of a form are those that the document gives and those that the form makes up. -/
theorem names_perm (d : Document) :
    (d.laidOutQuestions.map Question.name).Perm
      (d.ownNames ++ d.generatedNames.map Value.text) := by
  classical
  have hlegal := perm_legalNames d.legalTexts 0
  rw [← map_name_legalQuestions] at hlegal
  have hfixed : (headerQuestion d.title).name = .text "header" ∧
      pageBreakQuestion.name = .text "pageBreak2" ∧ submitQuestion.name = .text "submit" :=
    ⟨rfl, rfl, rfl⟩
  have hcaptcha : (if d.includeCaptcha then [captchaQuestion] else []).map Question.name =
      (if d.includeCaptcha then ["captcha"] else []).map Value.text := by
    cases d.includeCaptcha <;> rfl
  have hasked : Question.name ∘ HiddenField.question = HiddenField.name ∧
      Question.name ∘ EligibilityQuestion.question = EligibilityQuestion.name ∧
      Question.name ∘ Signature.question = Signature.name ∧
      Question.name ∘ PersonalField.question = Value.text ∘ PersonalField.fieldName :=
    ⟨rfl, rfl, rfl, rfl⟩
  -- Every name is counted on both sides, so it does not matter where the questions stand.
  rw [List.perm_iff_count] at hlegal ⊢
  intro n
  have hn := hlegal n
  unfold laidOutQuestions ownNames generatedNames defaultLegalNames
  rw [map_name_number, flatMap_sectionQuestions, bodyQuestions]
  simp only [List.map_append, List.map_cons, List.map_nil, List.map_map, hfixed, hcaptcha, hasked,
    map_name_placedWidgets, List.count_append, List.count_cons, List.count_nil] at hn ⊢
  have hdefault : Value.text ∘ (fun b : LegalText × Nat => defaultLegalName b.2) =
      fun b => .text (defaultLegalName b.2) := rfl
  rw [hdefault]
  omega

/-! ### Generated names -/

theorem defaultLegalName_injective : Function.Injective defaultLegalName := fun _ _ h =>
  Nat.repr_injective ((String.append_right_inj _).mp h)

/-- The names that do not depend on the legal texts. -/
def fixedNames : List String :=
  ["header", "pageBreak2", "submit", "captcha", "name", "address", "email", "phoneNumber"]

/-- None of them begins like the default name of a legal text. -/
theorem ne_defaultLegalName {s : String} (h : s ∈ fixedNames) (index : Nat) :
    s ≠ defaultLegalName index := by
  have hfixed : ∀ s ∈ fixedNames, s.toList.take 9 ≠ "legalText".toList := by decide
  rintro rfl
  refine hfixed _ h ?_
  rw [defaultLegalName, String.toList_append]
  exact List.take_left' rfl

/-- The default names differ, since no two legal texts have the same index. -/
theorem nodup_defaultLegalNames (d : Document) : d.defaultLegalNames.Nodup := by
  have hindices : (d.legalTexts.zipIdx.map Prod.snd).Nodup := by
    rw [List.zipIdx_map_snd]
    exact List.nodup_range'
  have hunnamed :
      ((d.legalTexts.zipIdx.filter fun b => b.1.ownName?.isNone).map Prod.snd).Nodup :=
    hindices.sublist (List.filter_sublist.map Prod.snd)
  have hnames := hunnamed.map defaultLegalName_injective
  rwa [List.map_map] at hnames

/-- The names that a form makes up for a document are distinct. -/
theorem nodup_generatedNames (d : Document) : d.generatedNames.Nodup := by
  have hmade : (["header", "pageBreak2", "submit"] ++
      (if d.includeCaptcha then ["captcha"] else []) ++
        d.personalInfo.selected.map PersonalField.fieldName).Sublist fixedNames := by
    have hselected : (d.personalInfo.selected.map PersonalField.fieldName).Sublist
        (PersonalField.all.map PersonalField.fieldName) := List.filter_sublist.map _
    have hcaptcha : (if d.includeCaptcha then ["captcha"] else []).Sublist ["captcha"] := by
      cases d.includeCaptcha
      · exact List.nil_sublist _
      · exact .refl _
    exact ((List.Sublist.refl ["header", "pageBreak2", "submit"]).append hcaptcha).append hselected
  refine List.nodup_append.mpr ⟨hmade.nodup (by decide), d.nodup_defaultLegalNames, ?_⟩
  intro s hs t ht
  obtain ⟨b, -, rfl⟩ := List.mem_map.mp ht
  exact ne_defaultLegalName (hmade.subset hs) b.2

/-! ### Distinct names -/

/-- In every view of what the same name is, the names of a form are distinct exactly when those that
the document gives are, and none of them is one that the form makes up; and those that it makes up
are distinct from each other. -/
theorem names_pairwise_iff {d : Document} {form : CompiledForm} (h : d.compile = .ok form)
    {same : Value → Value → Prop} (hsame : IsSameness same) :
    ((form.questions.map Question.name).Pairwise (fun n n' => ¬ same n n') ↔
      d.ownNames.Pairwise (fun n n' => ¬ same n n') ∧
        ∀ n ∈ d.ownNames, ∀ s ∈ d.generatedNames, ¬ same n (.text s)) ∧
      d.generatedNames.Nodup := by
  obtain ⟨-, -, rfl⟩ := compile_eq_ok_iff.mp h
  refine ⟨?_, d.nodup_generatedNames⟩
  have hgenerated : (d.generatedNames.map Value.text).Pairwise fun n n' => ¬ same n n' :=
    List.pairwise_map.mpr
      (d.nodup_generatedNames.imp fun hne hsame' => hne (hsame.eq_of_text hsame'))
  rw [d.names_perm.pairwise_iff (fun hn hn' => hn (hsame.symm hn')), List.pairwise_append]
  simp only [hgenerated, true_and, List.forall_mem_map]

/-- Of three legal texts with no name but for the second, the third is the one at index two: its
default name is free for the second only as long as that is called otherwise. -/
theorem names_pairwise_iff_of_three_legal_texts :
    let d (name : String) : Document :=
      { legalTexts := [{ content := .text "Terms" },
          { content := .text "Privacy", name := some (.text name) },
          { content := .text "Cookies" }] }
    (∃ form, (d "legalText3").compile = .ok form ∧ IsSameness (· = ·) ∧
      (form.questions.map Question.name).Pairwise (· ≠ ·)) ∧
    ∃ form, (d "legalText2").compile = .ok form ∧
      ¬ (form.questions.map Question.name).Pairwise (· ≠ ·) := by
  intro d
  have hform (name : String) : (d name).compile = .ok ⟨_, _⟩ := rfl
  have hgenerated : ∀ name ∈ ["legalText3", "legalText2"], (d name).generatedNames =
      ["header", "pageBreak2", "submit", "legalText0", "legalText2"] := by
    decide +kernel
  refine ⟨⟨_, hform _, isSameness_eq, ?_⟩, ⟨_, hform _, ?_⟩⟩
  · have hnames : (d "legalText3").ownNames = [.text "legalText3"] := rfl
    refine (names_pairwise_iff (hform _) isSameness_eq).1.mpr ?_
    rw [hnames, hgenerated _ (by decide)]
    simp
  · have hnames : (d "legalText2").ownNames = [.text "legalText2"] := rfl
    rw [(names_pairwise_iff (hform _) isSameness_eq).1, hnames, hgenerated _ (by decide)]
    simp

end Document

end FormPublisher
