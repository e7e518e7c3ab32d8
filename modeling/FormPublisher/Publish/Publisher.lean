import FormPublisher.Provider.Client

/-!
# Publishers

A `Publisher` has what it takes to publish forms: where the provider is, the key to use when a
request has none of its own, and whether a series of changes stops at the first that fails.  The key
of a request always goes before the configured one.
-/

namespace FormPublisher

/-- The settings under which forms are published. -/
structure Publisher where
  configuredKey : Value := .null
  abortOnFailure : Bool := false
  apiUrl : String := defaultApiUrl
  timeout : Value := defaultTimeout
  deriving Repr, Inhabited

/-- The key for a request: its own, or else the configured one. -/
def resolveKey (requestKey : Option Value) (configured : Value) : Except Rejection Value :=
  match requestKey.bind Value.present? <|> configured.present? with
  | some key => .ok key
  | none => .error .noKey

/-- The key in the body of a request, whatever else the body holds. -/
def bodyKey (body : Value) : Option Value :=
  match body.opened with
  | .map data => Entries.present? data "apiKey"
  | _ => none

/-- The value under a key of a mapping, or nothing. -/
def Value.member (v : Value) (key : String) : Except Misuse Value :=
  match v.opened with
  | .map entries => .ok (Entries.get entries key)
  | _ => .error (.noMember v.kind .get)

namespace Publisher

/-- Opens a client with a key. -/
def openClient (p : Publisher) (key : Value) : Run Client := do
  Session.noteKey key
  return { apiKey := key, apiUrl := p.apiUrl, timeout := p.timeout }

/-- A failed call counts as the failure of a whole operation; its status and text stay. -/
def during {α : Type} (operation : Operation) (r : Run α) : Run α :=
  ExceptT.mk do
    match ← r.run with
    | .error (.provider e) => return .error (.provider { e with operation })
    | outcome => return outcome

end Publisher

end FormPublisher
