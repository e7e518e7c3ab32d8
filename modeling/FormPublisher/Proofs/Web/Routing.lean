import FormPublisher.Web.Server
import Mathlib.Tactic.ByContra
import Mathlib.Tactic.SplitIfs

/-!
# Which requests reach the provider

A request may name any method and any path, and its body may be anything.  Only what is posted to one
of the two pages that publish can lead to a call to the provider (`WebRequest.IsPublishing`), a
request for options is answered before its path is looked at, and every response carries the headers
for scripts of other sites, whichever way it came about.  `Server.respond_isGuarded` says so for one
request in any session, and `Server.serve_isGuarded` for requests that come one after another.

The session that a request leaves is followed from the page (`Server.session_answerPage`) through the
choice of a page to the response.
-/

namespace FormPublisher

/-- A request that is posted to one of the two pages that publish.  The method may be in letters of
any case. -/
def WebRequest.IsPublishing (r : WebRequest) : Prop :=
  Text.toUpper r.method = "POST" ∧ (r.path = "/create-form" ∨ r.path = "/update-form")

/-- Nothing is asked of the provider: at most identifiers are drawn. -/
def Session.IsUndisturbed (s s' : Session) : Prop := ∃ ids, s' = { s with ids := ids }

/-- The headers that responses carry under settings. -/
def Settings.crossOrigin (settings : Settings) : CrossOrigin where
  origin := settings.allowOrigin
  methods := "GET, POST, OPTIONS"
  headers := "Content-Type"

namespace Session.IsUndisturbed

variable {s s' s'' : Session}

theorem refl (s : Session) : s.IsUndisturbed s := ⟨s.ids, rfl⟩

theorem trans (h : s.IsUndisturbed s') (h' : s'.IsUndisturbed s'') : s.IsUndisturbed s'' := by
  obtain ⟨ids, rfl⟩ := h
  obtain ⟨ids', rfl⟩ := h'
  exact ⟨ids', rfl⟩

theorem calls_eq (h : s.IsUndisturbed s') : s'.calls = s.calls := by
  obtain ⟨ids, rfl⟩ := h
  rfl

end Session.IsUndisturbed

/-! ### Pages -/

namespace Page

/-- A page that publishes. -/
def Publishes (p : Page) : Prop := p = .createForm ∨ p = .updateForm

instance (p : Page) : Decidable p.Publishes :=
  inferInstanceAs (Decidable (p = .createForm ∨ p = .updateForm))

/-- A page that publishes stands at one of two paths. -/
theorem Publishes.path {p : Page} {path : String} (h : p.Publishes) (hpath : ofPath? path = some p) :
    path = "/create-form" ∨ path = "/update-form" := by
  unfold ofPath? at hpath
  split_ifs at hpath with hmessage hrandom hcreate hupdate
  · cases hpath
    exact absurd h (by decide)
  · cases hpath
    exact absurd h (by decide)
  · exact .inl hcreate
  · exact .inr hupdate
  · -- what is left are the files that pages refer to
    split at hpath
    · split_ifs at hpath
      cases hpath
      exact absurd h (by decide)
    · cases hpath

/-- It can be asked for by a single method. -/
theorem Publishes.allows_iff {p : Page} (h : p.Publishes) {method : String} :
    p.allows method ↔ method = "POST" := by
  rcases h with rfl | rfl
  · exact beq_iff_eq
  · exact beq_iff_eq

end Page

namespace Server

variable (settings : Settings) (s : Session)

/-- A page that does not publish leaves the provider alone, whatever the body. -/
theorem session_answerPage (body : List UInt8) {page : Page} (h : ¬ page.Publishes) :
    s.IsUndisturbed ((answerPage settings body page).run s).2 := by
  cases page with
  | message => exact .refl s
  | random => exact ⟨_, rfl⟩
  | createForm => exact absurd (.inl rfl) h
  | updateForm => exact absurd (.inr rfl) h
  | static => exact .refl s

/-- The answer to a method on a path leaves the provider alone, unless a page that publishes stands
at the path and the method is the one by which it can be asked for. -/
theorem session_answer {method path : String} (body : List UInt8)
    (h : ¬ (method = "POST" ∧ (path = "/create-form" ∨ path = "/update-form"))) :
    s.IsUndisturbed ((answer settings method path body).run s).2 := by
  unfold answer
  by_cases hoptions : method = "OPTIONS"
  · rw [if_pos hoptions]
    exact .refl s
  · rw [if_neg hoptions]
    cases hpage : Page.ofPath? path with
    | none => exact .refl s
    | some page =>
      dsimp only
      by_cases hallows : page.allows method = true
      · -- a page that publishes would be one of two, and posted to
        rw [if_pos hallows]
        apply session_answerPage
        intro hpublishes
        exact h ⟨hpublishes.allows_iff.mp hallows, hpublishes.path hpage⟩
      · rw [if_neg hallows]
        exact .refl s

/-! ### Responses -/

/-- A response is an answer with the headers, and keeps the session that the answer leaves. -/
theorem run_respond_eq (r : WebRequest) :
    (respond settings r).run s =
      let answered := (answer settings (Text.toUpper r.method) r.path r.body).run s
      ({ status := answered.1.1
         crossOrigin := settings.crossOrigin
         body := if r.method = "HEAD" then .page "" else answered.1.2 }, answered.2) :=
  rfl

theorem session_respond {r : WebRequest} (h : ¬ r.IsPublishing) :
    s.IsUndisturbed ((respond settings r).run s).2 := by
  rw [run_respond_eq]
  exact session_answer settings s r.body h

/-- A request for options is answered alike on every path. -/
theorem run_respond_of_options {r : WebRequest} (h : Text.toUpper r.method = "OPTIONS") :
    (respond settings r).run s =
      ({ status := 200, crossOrigin := settings.crossOrigin, body := .page "" }, s) := by
  have hanswer : (answer settings (Text.toUpper r.method) r.path r.body).run s =
      ((200, .page ""), s) := by
    rw [h, answer, if_pos rfl]
    rfl
  rw [run_respond_eq, hanswer]
  dsimp only
  rw [ite_self]

/-- A response to a request is guarded: it can be read by scripts of the sites in the settings, and
it was obtained from the provider only if the request was to publish. -/
structure IsGuarded (r : WebRequest) (response : WebResponse × Session) : Prop where
  /-- The three headers are there, with the origin of the settings. -/
  origin : response.1.crossOrigin.origin = settings.allowOrigin
  methods : response.1.crossOrigin.methods = "GET, POST, OPTIONS"
  headers : response.1.crossOrigin.headers = "Content-Type"
  /-- A call to the provider is made only for what is posted to one of two paths. -/
  called : response.2.calls ≠ s.calls →
    Text.toUpper r.method = "POST" ∧ (r.path = "/create-form" ∨ r.path = "/update-form")
  /-- Other requests take no reply of the provider either, nor do they open a client. -/
  undisturbed : ¬ r.IsPublishing → s.IsUndisturbed response.2
  /-- A request for options is answered with an empty page and leaves the session as it was. -/
  options : Text.toUpper r.method = "OPTIONS" →
    response.1.status = 200 ∧ response.1.body = .page "" ∧ response.2 = s

/-- Every response is guarded, whatever the method, the path and the body, and in every session. -/
theorem respond_isGuarded (r : WebRequest) :
    IsGuarded settings s r ((respond settings r).run s) where
  origin := rfl
  methods := rfl
  headers := rfl
  called := by
    intro hcalls
    by_contra hpublishing
    exact hcalls (session_respond settings s hpublishing).calls_eq
  undisturbed := session_respond settings s
  options := by
    intro hoptions
    rw [run_respond_of_options settings s hoptions]
    exact ⟨rfl, rfl, rfl⟩

/-- It is enough to ask for the options of no page at all, in letters of any case. -/
theorem respond_isGuarded_at_no_page :
    let settings : Settings := { allowOrigin := "https://a.test" }
    let r : WebRequest := { method := "options", target := "/nowhere" }
    let response := (respond settings r).run {}
    Page.ofPath? r.path = none ∧ response.1.status = 200 ∧ response.1.body = .page "" ∧
      response.1.crossOrigin.origin = "https://a.test" ∧ response.2.calls = [] := by
  intro settings r response
  have hguarded : IsGuarded settings {} r response := respond_isGuarded settings {} r
  have hoptions : Text.toUpper r.method = "OPTIONS" := by decide
  obtain ⟨hstatus, hbody, hsession⟩ := hguarded.options hoptions
  refine ⟨by decide, hstatus, hbody, hguarded.origin, ?_⟩
  rw [hsession]

/-! ### One request after another -/

/-- The responses to requests that come one after another. -/
def serve (rs : List WebRequest) : StateM Session (List WebResponse) := rs.mapM (respond settings)

theorem run_serve_cons (r : WebRequest) (rs : List WebRequest) :
    (serve settings (r :: rs)).run s =
      let first := (respond settings r).run s
      let others := (serve settings rs).run first.2
      (first.1 :: others.1, others.2) := by
  unfold serve
  rw [List.mapM_cons, StateT.run_bind]
  rfl

/-- Any number of requests is answered with the headers, and the provider is left alone as long as
none of them is to publish. -/
theorem serve_isGuarded (rs : List WebRequest) :
    let served := (serve settings rs).run s
    served.1.length = rs.length ∧
    (∀ response ∈ served.1, response.crossOrigin = settings.crossOrigin) ∧
    ((∀ r ∈ rs, ¬ r.IsPublishing) → s.IsUndisturbed served.2) := by
  induction rs generalizing s with
  | nil => exact ⟨rfl, fun _ h => absurd h List.not_mem_nil, fun _ => .refl s⟩
  | cons r rs ih =>
    intro served
    obtain ⟨hlength, hheaders, hsession⟩ := ih ((respond settings r).run s).2
    have hserved : served = _ := run_serve_cons settings s r rs
    rw [hserved]
    refine ⟨?_, ?_, ?_⟩
    · rw [List.length_cons, List.length_cons, hlength]
    · intro response hresponse
      rcases List.mem_cons.mp hresponse with rfl | hothers
      · rw [run_respond_eq]
      · exact hheaders response hothers
    · intro h
      -- the others begin in the session that the first one leaves
      have hfirst : s.IsUndisturbed ((respond settings r).run s).2 :=
        session_respond settings s (h r List.mem_cons_self)
      exact hfirst.trans (hsession fun r' hr' => h r' (List.mem_cons_of_mem r hr'))

end Server

end FormPublisher
