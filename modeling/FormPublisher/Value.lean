import FormPublisher.Calendar
import FormPublisher.Number.Binary64
import FormPublisher.Text.Surrogate

/-!
# Documents as values

The values that configuration documents, requests and answers are made of: scalars, lists, mappings
that keep the order of their keys, and the pairs and sets that only a configuration file can hold.
Keys are scalars.  Two scalars are the same key when they denote the same thing, so a number is one
key whether it is written as an integer, a decimal or a truth value (`Scalar.sameKey`).

A mapping is written entry by entry with `Entries.put`: a new key goes to the end, and a key that is
there already keeps its place and takes the new value (`get?_put`).

A configuration file can also describe a list or a mapping that holds itself.  Such a value is a
`knot`, inside which `back` stands for the whole; `Value.opened` puts the whole in its place, so
that the parts of an opened value can be looked at by themselves.
-/

namespace FormPublisher

/-! ### Kinds -/

/-- The kinds of values. -/
inductive Kind where
  | null | bool | int | float | text | bytes | date | time | list | pair | map | set
  deriving DecidableEq, Repr, Inhabited

namespace Kind

/-- The name of a kind. -/
def name : Kind → String
  | null => "NoneType"
  | bool => "bool"
  | int => "int"
  | float => "float"
  | text => "str"
  | bytes => "bytes"
  | date => "date"
  | time => "datetime"
  | list => "list"
  | pair => "tuple"
  | map => "dict"
  | set => "set"

/-- The name of a kind with the name of the calendar in front where it has one. -/
def fullName : Kind → String
  | date => "datetime.date"
  | time => "datetime.datetime"
  | k => k.name

end Kind

/-! ### Values -/

/-- A value without parts; a text is `torn` if it holds a surrogate without its partner, and is
given by its code points then. -/
inductive Scalar where
  | null
  | bool (b : Bool)
  | int (n : Int)
  | float (x : Binary64)
  | text (s : String)
  | torn (points : List Nat)
  | bytes (bs : List UInt8)
  | date (d : Date)
  | time (t : DateTime)
  deriving DecidableEq, Repr, Inhabited

/-- A value; the keys of a mapping stand in the order in which they were first written.  A `knot` is
a list or a mapping with a label, under which it can be found inside itself: there `back` stands for
it, which also knows its kind. -/
inductive Value where
  | scalar (s : Scalar)
  | list (items : List Value)
  | pair (first second : Value)
  | map (entries : List (Scalar × Value))
  | set (members : List Scalar)
  | knot (label : Nat) (v : Value)
  | back (label : Nat) (kind : Kind)
  deriving Repr, Inhabited

/-- The text of code points. -/
def Scalar.ofPoints (points : List Nat) : Scalar :=
  if points.any Text.isSurrogate then .torn points
  else .text (Text.ofPoints points)

/-- The code points of a text make a scalar that is this text. -/
theorem ofPoints_points (s : String) : Scalar.ofPoints (Text.points s) = .text s := by
  have h : (Text.points s).any Text.isSurrogate = false := by
    simp [Text.points, List.any_eq_false, Text.isSurrogate_toNat]
  simp [Scalar.ofPoints, h]

/-- The entries of a mapping. -/
abbrev Entries := List (Scalar × Value)

namespace Value

/-- The value that stands for nothing. -/
@[match_pattern] abbrev null : Value := .scalar .null

/-- A truth value. -/
@[match_pattern] abbrev bool (b : Bool) : Value := .scalar (.bool b)

/-- An integer. -/
@[match_pattern] abbrev int (n : Int) : Value := .scalar (.int n)

/-- A double-precision number. -/
@[match_pattern] abbrev float (x : Binary64) : Value := .scalar (.float x)

/-- A text. -/
@[match_pattern] abbrev text (s : String) : Value := .scalar (.text s)

/-- A mapping with text keys. -/
def object (fields : List (String × Value)) : Value := .map (fields.map fun f => (.text f.1, f.2))

end Value

/-! ### Truth -/

/-- Whether a scalar counts as present: nothing, `false`, zero and the empty text and bytes do
not. -/
def Scalar.isTruthy : Scalar → Bool
  | .null => false
  | .bool b => b
  | .int n => n != 0
  | .float x => !x.isZero
  | .text s => s != ""
  | .torn points => !points.isEmpty
  | .bytes bs => !bs.isEmpty
  | .date _ => true
  | .time _ => true

namespace Value

/-- Whether a value counts as present: empty lists, mappings and sets do not. -/
def isTruthy : Value → Bool
  | .scalar s => s.isTruthy
  | .list items => !items.isEmpty
  | .pair _ _ => true
  | .map entries => !entries.isEmpty
  | .set members => !members.isEmpty
  | .knot _ v => v.isTruthy
  | .back _ _ => true

/-- The value if it counts as present. -/
def present? (v : Value) : Option Value := if v.isTruthy then some v else none

/-- The text that stands for a value that may be missing. -/
def ofText? : Option String → Value
  | some s => .text s
  | none => .null

end Value

/-! ### Keys -/

/-- The value of a number; truth values count as one and zero. -/
def Scalar.number? : Scalar → Option (Int ⊕ Binary64)
  | .bool b => some (.inl (if b then 1 else 0))
  | .int n => some (.inl n)
  | .float x => some (.inr x)
  | _ => none

/-- Whether two scalars are one and the same key. -/
def Scalar.sameKey (a b : Scalar) : Bool :=
  match a.number?, b.number? with
  | some (.inl m), some (.inl n) => m == n
  | some (.inl m), some (.inr y) => y.sameInt m
  | some (.inr x), some (.inl n) => x.sameInt n
  | some (.inr x), some (.inr y) => x.sameValue y
  | none, none =>
    match a, b with
    | .time s, .time t => s.sameInstant t
    | _, _ => a == b
  | _, _ => false

namespace Entries

/-- The value under a text key. -/
def get? (key : String) : Entries → Option Value
  | [] => none
  | (k, v) :: es => if k = .text key then some v else get? key es

/-- The value under a text key, or nothing. -/
def get (entries : Entries) (key : String) : Value := (get? key entries).getD .null

/-- The entries with one more written: a key that is there keeps its place. -/
def put (key : Scalar) (value : Value) : Entries → Entries
  | [] => [(key, value)]
  | (k, v) :: es => if k.sameKey key then (k, value) :: es else (k, v) :: put key value es

/-- The entries with others written after them, one by one. -/
def update (entries others : Entries) : Entries :=
  others.foldl (fun es e => put e.1 e.2 es) entries

/-- The mapping that a list of entries makes when they are written one by one. -/
def ofList (entries : Entries) : Entries := update [] entries

/-- A text is the same key as that text alone. -/
theorem sameKey_text (k : Scalar) (s : String) : k.sameKey (.text s) = (k == .text s) := by
  cases k <;> simp [Scalar.sameKey, Scalar.number?]

/-- Reading after writing under text keys: the key written has the new value and all others what
they had. -/
theorem get?_put (key s : String) (v : Value) (es : Entries) :
    get? key (put (.text s) v es) = if key = s then some v else get? key es := by
  induction es with
  | nil => by_cases h : key = s <;> simp [put, get?, h, eq_comm]
  | cons e es ih =>
    obtain ⟨k, w⟩ := e
    by_cases hk : k = .text s
    · subst hk
      by_cases h : key = s <;> simp [put, get?, sameKey_text, h, eq_comm]
    · have hs : k.sameKey (.text s) = false := by simp [sameKey_text, hk]
      by_cases h : key = s
      · subst h
        simpa [put, get?, hs, hk] using ih
      · simp only [put, hs, get?, Bool.false_eq_true, if_false, ih, h]

end Entries

/-! ### Kinds of values -/

/-- The kind of a scalar. -/
def Scalar.kind : Scalar → Kind
  | .null => .null
  | .bool _ => .bool
  | .int _ => .int
  | .float _ => .float
  | .text _ | .torn _ => .text
  | .bytes _ => .bytes
  | .date _ => .date
  | .time _ => .time

/-- The kind of a value. -/
def Value.kind : Value → Kind
  | .scalar s => s.kind
  | .list _ => .list
  | .pair _ _ => .pair
  | .map _ => .map
  | .set _ => .set
  | .knot _ v => v.kind
  | .back _ k => k

/-- The kind of the first part of a value because of which it can be no key, if there is one: only
scalars, and pairs of what can be a key, are looked up. -/
def Value.keyObstacle? : Value → Option Kind
  | .scalar _ => none
  | .pair a b => a.keyObstacle? <|> b.keyObstacle?
  | v => some v.kind

/-- Whether a value can be looked up as a key. -/
def Value.isKey (v : Value) : Bool := v.keyObstacle?.isNone

/-! ### Knots -/

mutual

/-- A value with another in the place of every way back to a label. -/
def Value.replaceBack (label : Nat) (whole : Value) : Value → Value
  | .list items => .list (replaceBackItems label whole items)
  | .pair a b => .pair (Value.replaceBack label whole a) (Value.replaceBack label whole b)
  | .map entries => .map (replaceBackEntries label whole entries)
  | .knot l v => .knot l (if l = label then v else Value.replaceBack label whole v)
  | .back l kind => if l = label then whole else .back l kind
  | v => v

/-- The items of a list with another value in the place of every way back. -/
def replaceBackItems (label : Nat) (whole : Value) : List Value → List Value
  | [] => []
  | v :: vs => Value.replaceBack label whole v :: replaceBackItems label whole vs

/-- The entries of a mapping with another value in the place of every way back. -/
def replaceBackEntries (label : Nat) (whole : Value) :
    List (Scalar × Value) → List (Scalar × Value)
  | [] => []
  | (k, v) :: es => (k, Value.replaceBack label whole v) :: replaceBackEntries label whole es

end

namespace Value

/-- The value with the whole of it in the place of every way back, if it is a knot. -/
def opened : Value → Value
  | .knot label v => replaceBack label (.knot label v) v
  | v => v

/-- A scalar is open. -/
@[simp] theorem opened_scalar (s : Scalar) : (scalar s).opened = .scalar s := rfl

/-- A list without a label is open. -/
@[simp] theorem opened_list (items : List Value) : (list items).opened = .list items := rfl

/-- A mapping without a label is open. -/
@[simp] theorem opened_map (entries : Entries) : (map entries).opened = .map entries := rfl

/-- A list that holds itself opens to a list that holds the same. -/
theorem opened_knot_back (label : Nat) (kind : Kind) :
    (knot label (.list [.back label kind])).opened =
      .list [.knot label (.list [.back label kind])] := by
  simp [opened, replaceBack, replaceBackItems]

end Value

end FormPublisher
