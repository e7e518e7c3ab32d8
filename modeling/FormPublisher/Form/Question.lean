import FormPublisher.Value

/-!
# Questions

A `Question` is one field of a form as the provider knows it: its kind, its text, its position among
all questions, its name and the attributes of its kind.  Its section says which part of the document
it comes from and is not sent.

`Question.toEntries` is the object that is sent.  It begins with the type, the text, the order and
the name; an attribute of one of these names takes the place of the value there.
-/

namespace FormPublisher

/-- The part of a form that a question belongs to. -/
inductive Section where
  | hidden
  | header
  | eligibility
  | firstLegal
  | personal
  | pageBreak
  | legal
  | signature
  | captcha
  | submit
  | widget
  | other (name : String)
  deriving DecidableEq, Repr, Inhabited

namespace Section

/-- The sections that a document can fill, in the order of the questions. -/
def all : List Section :=
  [hidden, header, eligibility, firstLegal, personal, pageBreak, legal, signature, captcha, submit,
    widget]

/-- The name of a section. -/
def name : Section → String
  | hidden => "hidden"
  | header => "header"
  | eligibility => "eligibility"
  | firstLegal => "legal_first"
  | personal => "personal"
  | pageBreak => "page_break"
  | legal => "legal"
  | signature => "signature"
  | captcha => "captcha"
  | submit => "submit"
  | widget => "widget"
  | other name => name

/-- The section of a name. -/
def ofName (name : String) : Section := (all.find? fun s => s.name == name).getD (.other name)

/-- A name is the name of its section. -/
theorem name_ofName (s : String) : (ofName s).name = s := by
  unfold ofName
  cases h : all.find? fun t => t.name == s with
  | none => rfl
  | some t => simpa using List.find?_some h

end Section

/-- One question of a form. -/
structure Question where
  kind : String
  text : Value
  position : Int := 0
  name : Value
  attributes : List (String × Value) := []
  part : Section := .other ""
  deriving Repr, Inhabited

namespace Question

/-- The entries that every question has. -/
def baseEntries (q : Question) : Entries :=
  [(.text "type", .text q.kind), (.text "text", q.text),
    (.text "order", .text (toString q.position)), (.text "name", q.name)]

/-- The attributes as entries. -/
def attributeEntries (q : Question) : Entries := q.attributes.map fun a => (.text a.1, a.2)

/-- The object that is sent for a question. -/
def toEntries (q : Question) : Entries := Entries.update q.baseEntries q.attributeEntries

/-- The positions of the questions of a section, in order. -/
def positionsOf (part : Section) (questions : List Question) : List Int :=
  (questions.filter fun q => q.part = part).map Question.position

/-- The questions numbered from one on. -/
def number (questions : List Question) : List Question :=
  questions.mapIdx fun i q => { q with position := i + 1 }

end Question

end FormPublisher
