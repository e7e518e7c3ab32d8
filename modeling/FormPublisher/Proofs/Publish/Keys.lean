import FormPublisher.Proofs.Outcome
import FormPublisher.Publish.Publisher

/-!
# Keys

Which key a request is carried out with: its own, if it has one that counts as present, or else the
configured one (`keyFor`).  A request is turned down exactly when this key does not count as
present, for a body of any kind (`resolveKey_bodyKey`).  A key is at hand for a document that has
one of its own, and for every document if one is configured (`exists_resolveKey_eq_ok_iff`).
-/

namespace FormPublisher

/-- The key for a request with this body, which may be one that does not count as present. -/
def keyFor (configured body : Value) : Value :=
  match body.opened with
  | .map data =>
    if (Entries.get data "apiKey").isTruthy then Entries.get data "apiKey" else configured
  | _ => configured

theorem keyFor_of_map {body : Value} {data : Entries} (h : body.opened = .map data)
    (configured : Value) :
    keyFor configured body =
      if (data.get "apiKey").isTruthy then data.get "apiKey" else configured := by
  rw [keyFor, h]

theorem keyFor_of_not_map {body : Value} (h : ∀ data, body.opened ≠ .map data)
    (configured : Value) : keyFor configured body = configured := by
  unfold keyFor
  split
  · rename_i data hdata
    exact absurd hdata (h data)
  · rfl

/-- Without a key in the request the configured one is taken. -/
theorem resolveKey_none (configured : Value) :
    resolveKey none configured =
      if configured.isTruthy then .ok configured else .error .noKey := by
  unfold resolveKey Value.present?
  by_cases h : configured.isTruthy = true
  · rw [if_pos h, if_pos h]
    rfl
  · rw [if_neg h, if_neg h]
    rfl

/-- The first of two keys that counts as present. -/
theorem resolveKey_present? (v configured : Value) :
    resolveKey v.present? configured =
      if v.isTruthy then .ok v else resolveKey none configured := by
  by_cases h : v.isTruthy = true
  · simp [resolveKey, Value.present?, h]
  · simp [resolveKey, Value.present?, h]

theorem resolveKey_bodyKey (configured body : Value) :
    resolveKey (bodyKey body) configured =
      if (keyFor configured body).isTruthy then .ok (keyFor configured body)
      else .error .noKey := by
  unfold bodyKey
  split
  · rename_i data hdata
    rw [keyFor_of_map hdata, Entries.present?, resolveKey_present?]
    by_cases h : (Entries.get data "apiKey").isTruthy = true
    · simp only [h, if_true]
    · simp only [h, if_false, Bool.false_eq_true, resolveKey_none]
  · rename_i hbody
    rw [keyFor_of_not_map hbody, resolveKey_none]

/-- A key is found exactly when the request has one that counts as present or one is configured. -/
theorem exists_resolveKey_eq_ok_iff {request : Option Value} {configured : Value} :
    (∃ key, resolveKey request configured = .ok key) ↔
      (∃ own, request = some own ∧ own.isTruthy) ∨ configured.isTruthy := by
  cases request with
  | none =>
    rw [resolveKey_none]
    by_cases h : configured.isTruthy = true <;> simp [h]
  | some own =>
    by_cases hown : own.isTruthy = true
    · simp [resolveKey, Value.present?, hown]
    · by_cases h : configured.isTruthy = true <;>
        simp [resolveKey, Value.present?, hown, h]

end FormPublisher
