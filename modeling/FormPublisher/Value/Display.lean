import FormPublisher.Fault
import FormPublisher.Number.Shortest

/-!
# Values as text

`Value.display` is the text that stands for a value where a text is asked for, as in a path or a
field of a form.  A text stands for itself.  Inside lists and mappings the elements stand in their
quoted form, `Value.quoted`, so that texts have quotation marks there and days name their fields.
Where a list or a mapping is met inside itself, three dots between brackets stand for it.

Not every value has such a text: an integer may have too many digits.  `Value.render` gives the text
if there is one (`render_eq_ok_iff`).
-/

namespace FormPublisher

/-- The layout of numbers in displayed values. -/
def displayLayout : FloatLayout := { nan := "nan", infinity := "inf" }

/-! ### Scalars -/

namespace Scalar

/-- The text of a scalar as an element of something. -/
def quoted : Scalar → String
  | .null => "None"
  | .bool b => if b then "True" else "False"
  | .int n => toString n
  | .float x => x.write displayLayout
  | .text s => Text.quoted s
  | .torn points => Text.quotedPoints points
  | .bytes bs => Text.quotedBytes bs
  | .date d => d.quoted
  | .time t => t.quoted

/-- The text of a scalar by itself; what is no character in it is replaced. -/
def display : Scalar → String
  | .text s => s
  | .torn points => Text.ofPoints points
  | .date d => d.write
  | .time t => t.write " "
  | s => s.quoted

/-- Whether a scalar can be written as text: an integer must not have too many digits. -/
def isWritable : Scalar → Bool
  | .int n => Numeral.isWritable n
  | _ => true

end Scalar

/-! ### Collections -/

/-- The texts of the elements of a collection between brackets. -/
def bracketed (opening closing : String) (parts : List String) : String :=
  opening ++ ", ".intercalate parts ++ closing

/-- The integer that a scalar is, if it is one; truth values count as one and zero. -/
def Scalar.integer? (s : Scalar) : Option Int :=
  match s.number? with
  | some (.inl n) => some n
  | _ => none

/-- The members of a set in the order in which they are shown: integers from the least one on, and
others as they were written. -/
def shownMembers (members : List Scalar) : List Scalar :=
  if members.all fun s => s.integer?.isSome then
    members.mergeSort fun a b => a.integer?.getD 0 ≤ b.integer?.getD 0
  else members

/-- What stands for a list or a mapping inside itself. -/
def Kind.ellipsis : Kind → String
  | map => "\x7b...\x7d"
  | _ => "[...]"

mutual

/-- The text of a value as an element of something, inside the knots with these labels. -/
def Value.quotedWithin (knots : List Nat) : Value → String
  | .scalar s => s.quoted
  | .list items => bracketed "[" "]" (quotedItems knots items)
  | .pair a b => bracketed "(" ")" [a.quotedWithin knots, b.quotedWithin knots]
  | .map entries => bracketed "\x7b" "\x7d" (quotedEntries knots entries)
  | .set members =>
    if members.isEmpty then "set()"
    else bracketed "\x7b" "\x7d" ((shownMembers members).map Scalar.quoted)
  | .knot label v =>
    if knots.contains label then v.kind.ellipsis else v.quotedWithin (label :: knots)
  | .back _ kind => kind.ellipsis

/-- The texts of the items of a list. -/
def quotedItems (knots : List Nat) : List Value → List String
  | [] => []
  | v :: vs => v.quotedWithin knots :: quotedItems knots vs

/-- The texts of the entries of a mapping. -/
def quotedEntries (knots : List Nat) : List (Scalar × Value) → List String
  | [] => []
  | (k, v) :: es => (k.quoted ++ ": " ++ v.quotedWithin knots) :: quotedEntries knots es

end

/-- The text of a value as an element of something. -/
def Value.quoted (v : Value) : String := v.quotedWithin []

/-- The text that stands for a value. -/
def Value.display : Value → String
  | .scalar s => s.display
  | v => v.quoted

/-! ### Values that have a text -/

mutual

/-- Whether a value can be written as text: so must all its parts. -/
def Value.isWritable : Value → Bool
  | .scalar s => s.isWritable
  | .list items => areWritable items
  | .pair a b => a.isWritable && b.isWritable
  | .map entries => areWritableEntries entries
  | .set members => members.all Scalar.isWritable
  | .knot _ v => v.isWritable
  | .back _ _ => true

/-- Whether all items of a list can be written. -/
def areWritable : List Value → Bool
  | [] => true
  | v :: vs => v.isWritable && areWritable vs

/-- Whether all entries of a mapping can be written. -/
def areWritableEntries : List (Scalar × Value) → Bool
  | [] => true
  | (k, v) :: es => k.isWritable && v.isWritable && areWritableEntries es

end

/-- The text that stands for a scalar, if it can be written. -/
def Scalar.render (s : Scalar) : Except Misuse String :=
  if s.isWritable then .ok s.display else .error .tooManyDigits

/-- The text that stands for a value, if it can be written. -/
def Value.render (v : Value) : Except Misuse String :=
  if v.isWritable then .ok v.display else .error .tooManyDigits

/-- The text of a value that may be missing. -/
def renderOptional (v : Option Value) : Except Misuse (Option String) := v.mapM Value.render

/-- A value that can be written is rendered as its display. -/
theorem render_eq_ok_iff {v : Value} {s : String} :
    v.render = .ok s ↔ v.isWritable ∧ v.display = s := by
  unfold Value.render
  split <;> simp [*]

/-- A text is rendered as itself. -/
@[simp] theorem render_text (s : String) : (Value.text s).render = .ok s := rfl

end FormPublisher
