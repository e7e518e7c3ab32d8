import FormPublisher.Fault
import FormPublisher.Json.Reader
import FormPublisher.Json.Writer
import FormPublisher.Value.Display

/-!
# Calls and replies

A `Request` is something the provider is asked to do to a form, and a `Call` is how it is asked: a
method, a path under the address of the provider, and a body of JSON or of form fields.  A `Reply`
is what came back; `Reply.answer` tells the value that a successful one holds from what is wrong
with the others.

Identifiers go into the path as they are.
-/

namespace FormPublisher

/-- The methods of calls. -/
inductive Method where
  | put
  | post
  | delete
  deriving DecidableEq, Repr, Inhabited

/-- The name of a method. -/
def Method.name : Method → String
  | put => "PUT"
  | post => "POST"
  | delete => "DELETE"

/-- The body of a call. -/
inductive CallBody where
  | empty
  | json (v : Value)
  | form (fields : List (String × String))
  deriving Repr, Inhabited

/-- A call as it is made. -/
structure Call where
  method : Method
  url : String
  apiKey : Value
  timeout : Value
  body : CallBody
  deriving Repr, Inhabited

/-! ### Requests -/

/-- Something that the provider is asked to do. -/
inductive Request where
  | createForm (payload : Value)
  | updateProperties (form : String) (fields : List (String × String))
  | updateQuestion (form question : String) (fields : List (String × String))
  | deleteQuestion (form question : String)
  | addQuestions (form : String) (questions : List Value)
  deriving Repr, Inhabited

/-- The questions under their numbers, which count from one. -/
def numbered (questions : List Value) : Entries :=
  questions.mapIdx fun i q => (.text (toString (i + 1)), q)

namespace Request

/-- What a request attempts. -/
def operation : Request → Operation
  | createForm _ => .createForm
  | updateProperties _ _ => .updateProperties
  | updateQuestion _ question _ => .updateQuestion question
  | deleteQuestion _ question => .deleteQuestion question
  | addQuestions _ _ => .addQuestions

/-- The method of a request. -/
def method : Request → Method
  | createForm _ | addQuestions _ _ => .put
  | updateProperties _ _ | updateQuestion _ _ _ => .post
  | deleteQuestion _ _ => .delete

/-- The path of a request. -/
def path : Request → String
  | createForm _ => "/form"
  | updateProperties form _ => "/form/" ++ form ++ "/properties"
  | updateQuestion form question _ | deleteQuestion form question =>
    "/form/" ++ form ++ "/question/" ++ question
  | addQuestions form _ => "/form/" ++ form ++ "/questions"

/-- The body of a request. -/
def body : Request → CallBody
  | createForm payload => .json payload
  | updateProperties _ fields | updateQuestion _ _ fields => .form fields
  | deleteQuestion _ _ => .empty
  | addQuestions _ questions => .json (.object [("questions", .map (numbered questions))])

end Request

/-! ### Replies -/

/-- What comes back for a call: an answer, or nothing at all. -/
inductive Reply where
  | response (status : Int) (body : String)
  | fault
  deriving DecidableEq, Repr, Inhabited

namespace Reply

/-- The reply of a provider that has nothing to say. -/
def standard : Reply := .response 200 "\x7b\"responseCode\": 200, \"content\": \x7b\x7d\x7d"

/-- Whether a status is an error of the client or of the provider. -/
def isError (status : Int) : Bool := 400 ≤ status && status < 600

end Reply

/-- Why a reply holds no value: it failed and leaves a status and a text, or neither of them, or its
text is JSON with a literal that is too large. -/
inductive ReplyError where
  | failed (status : Option Int) (body : Option String)
  | unreadable (cause : LiteralError)
  deriving DecidableEq, Repr, Inhabited

/-- The value that a reply holds.  An error status is left with its text; there is neither when
there was no answer or one that is no JSON text. -/
def Reply.answer : Reply → Except ReplyError Value
  | response status body =>
    if isError status then .error (.failed (some status) (some body))
    else
      (Json.read body).mapError fun
        | .malformed => .failed none none
        | .literal cause => .unreadable cause
  | fault => .error (.failed none none)

/-! ### Form fields -/

/-- The text of a value as a field of a form. -/
def formValue (v : Value) : Except Misuse String :=
  match v.opened with
  | .scalar (.bool b) => .ok (if b then "true" else "false")
  | .scalar .null => .ok ""
  | .list _ | .map _ => Json.write .compact v
  | _ => v.render

/-- The text that a key is written as in the name of a field; a torn one stays as it is, so that
two of them are told apart. -/
def Scalar.spelling : Scalar → Except Misuse Scalar
  | .torn points => .ok (.torn points)
  | key => .text <$> key.render

/-- The fields with one more written: one with this key keeps its place. -/
def putField (key : Scalar) (text : String) : List (Scalar × String) → List (Scalar × String)
  | [] => [(key, text)]
  | (k, t) :: fs => if k = key then (k, text) :: fs else (k, t) :: putField key text fs

/-- The field of an entry: the spelling of its key, and the text of its value. -/
def formField (e : Scalar × Value) : Except Misuse (Scalar × String) := do
  let key ← e.1.spelling
  let text ← formValue e.2
  return (key, text)

/-- The name of a field for a key inside a group. -/
def fieldName (group : String) (key : Scalar) : String := group ++ "[" ++ key.display ++ "]"

/-- The entries of a mapping as the fields of a group. -/
def formFields (group : String) (entries : Entries) : Except Misuse (List (String × String)) := do
  let spelled ← entries.mapM formField
  let fields := spelled.foldl (fun fields f => putField f.1 f.2 fields) []
  return fields.map fun f => (fieldName group f.1, f.2)

/-- The fields of a group for a value, which must be a mapping. -/
def Value.formFields (group : String) (v : Value) : Except Misuse (List (String × String)) :=
  match v.opened with
  | .map entries => FormPublisher.formFields group entries
  | _ => .error (.noMember v.kind .items)

/-- The values that a value is made of when it is gone through one by one: the items of a list, the
keys of a mapping, the characters of a text. -/
def Value.elements (v : Value) : Except Misuse (List Value) :=
  match v.opened with
  | .list items => .ok items
  | .pair a b => .ok [a, b]
  | .map entries => .ok (entries.map fun e => .scalar e.1)
  | .set members => .ok (members.map .scalar)
  | .scalar (.text s) => .ok (s.toList.map fun c => .text (String.singleton c))
  | .scalar (.torn points) => .ok (points.map fun u => .scalar (.ofPoints [u]))
  | .scalar (.bytes bs) => .ok (bs.map fun b => .int b.toNat)
  | _ => .error (.notIterable v.kind)

end FormPublisher
