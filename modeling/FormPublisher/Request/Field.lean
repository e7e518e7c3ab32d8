import FormPublisher.Fault

/-!
# Parts of a request

Reading the parts of a request out of its entries.  A part that is missing and one that is nothing
are the same.  The shape of a part, an object or a list of objects, is checked for all its entries
before anything in them is read (`entryList_eq_ok_iff`).
-/

namespace FormPublisher

/-- The entries of an object, or nothing for nothing. -/
def mappingOf (v : Value) (place : String) : Except Rejection (Option Entries) :=
  match v.opened with
  | .scalar .null => .ok none
  | .map entries => .ok (some entries)
  | _ => .error (.notObject place)

/-- The entries of a value that is an object. -/
def Value.entries? (v : Value) : Option Entries :=
  match v.opened with
  | .map entries => some entries
  | _ => none

/-- The objects of a list, or none for nothing. -/
def entryList (v : Value) (place : String) : Except Rejection (List Entries) :=
  match v.opened with
  | .scalar .null => .ok []
  | .list items =>
    match items.mapM Value.entries? with
    | some entries => .ok entries
    | none => .error (.entryNotObject place)
  | _ => .error (.notList place)

/-- A list of objects is read exactly when the value is nothing or a list of objects. -/
theorem entryList_eq_ok_iff {v : Value} {place : String} {es : List Entries} :
    entryList v place = .ok es ↔
      (v.opened = .null ∧ es = []) ∨
        ∃ items, v.opened = .list items ∧ items.mapM Value.entries? = some es := by
  unfold entryList
  split
  · rename_i h
    simp [h, eq_comm]
  · rename_i items h
    cases hm : items.mapM Value.entries? <;> simp [Value.null, h, hm]
  · rename_i h1 h2
    simp only [reduceCtorEq, false_iff, not_or, not_exists, not_and]
    exact ⟨fun h _ => h1 h, fun items h _ => h2 items h⟩

namespace Entries

/-- The list of objects under a key. -/
def entriesAt (data : Entries) (key : String) : Except Rejection (List Entries) :=
  entryList (data.get key) key

/-- The object under a key, if there is one. -/
def mappingAt (data : Entries) (key : String) : Except Rejection (Option Entries) :=
  mappingOf (data.get key) key

/-- The value under a key that must be there and be neither nothing nor the empty text. -/
def require (entry : Entries) (key place : String) : Except Rejection Value :=
  let v := entry.get key
  match v with
  | .scalar .null => .error (.missing key place)
  | .scalar (.text "") => .error (.missing key place)
  | _ => .ok v

/-- The value under a key, or the empty text if there is no such key. -/
def getText (entry : Entries) (key : String) : Value := (entry.get? key).getD (.text "")

/-- Whether the value under a key counts as present. -/
def flag (entry : Entries) (key : String) : Bool := (entry.get key).isTruthy

/-- The value under a key if it counts as present. -/
def present? (entry : Entries) (key : String) : Option Value := (entry.get key).present?

end Entries

end FormPublisher
