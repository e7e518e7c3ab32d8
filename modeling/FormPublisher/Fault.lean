import FormPublisher.Number.Numeral
import FormPublisher.Text.Quoted
import FormPublisher.Value

/-!
# What can go wrong

Each error is its cause, and a `message` function gives its wording.  A `Rejection` is a request
turned down before the provider is asked, a `ProviderError` a call that the provider did not answer
with success, a `FileError` a configuration file that cannot be used, a `Misuse` a value that an
operation cannot take, and a `LiteralError` a text that is no literal of its kind, or one of a value
that is too large.  A `Fault` is any of them.

What is wrong with a text in one of the two notations for documents is a `Flaw`: the text breaks the
rules of the notation, or a literal in it is wrong.
-/

namespace FormPublisher

/-! ### Rejected requests -/

/-- Why a request is turned down; `place` is the part of the request that is at fault. -/
inductive Rejection where
  | bodyNotObject
  | notObject (place : String)
  | notList (place : String)
  | entryNotObject (place : String)
  | missing (key place : String)
  | conditionNotObject
  | unknownLink
  | noKey
  | noFormId
  | unknownUpdate
  | noProperties
  | noConditions
  deriving DecidableEq, Repr, Inhabited

namespace Rejection

/-- The wording of a rejection. -/
def message : Rejection → String
  | bodyNotObject => "Request body must be a JSON object"
  | notObject place => "'" ++ place ++ "' must be an object"
  | notList place => "'" ++ place ++ "' must be a list"
  | entryNotObject place => "Every entry in '" ++ place ++ "' must be an object"
  | missing key place => "'" ++ key ++ "' is required for every entry in '" ++ place ++ "'"
  | conditionNotObject => "Every condition must be an object"
  | unknownLink => "Condition link must be 'All' or 'Any'"
  | noKey => "API key not configured"
  | noFormId => "Form ID is required"
  | unknownUpdate => "Invalid update type. Must be: properties, questions, or conditions"
  | noProperties => "Properties data required for properties update"
  | noConditions => "Conditions data required for conditions update"

/-- The field of the request that a rejection names; a body that is no object has none. -/
def field : Rejection → Option String
  | bodyNotObject => none
  | notObject place => some place
  | notList place => some place
  | entryNotObject place => some place
  | missing _ place => some place
  | conditionNotObject => some "conditions"
  | unknownLink => some "conditions"
  | noKey => some "apiKey"
  | noFormId => some "formId"
  | unknownUpdate => some "updateType"
  | noProperties => some "properties"
  | noConditions => some "conditions"

end Rejection

/-! ### Failed calls -/

/-- What was attempted at the provider: one of its calls, or a whole update. -/
inductive Operation where
  | createForm
  | updateForm
  | updateProperties
  | updateQuestion (question : String)
  | deleteQuestion (question : String)
  | addQuestions
  deriving DecidableEq, Repr, Inhabited

/-- An operation in words. -/
def Operation.describe : Operation → String
  | createForm => "create form"
  | updateForm => "update form"
  | updateProperties => "update form properties"
  | updateQuestion question => "update question " ++ question
  | deleteQuestion question => "delete question " ++ question
  | addQuestions => "add questions"

/-- A call that failed: the status and the text of the answer, both missing when there was no
answer that could be used. -/
structure ProviderError where
  operation : Operation
  status : Option Int
  body : Option String
  deriving DecidableEq, Repr, Inhabited

/-- The wording of a failed call. -/
def ProviderError.message (e : ProviderError) : String := "Failed to " ++ e.operation.describe

/-! ### Configuration files -/

/-- Why a configuration file cannot be used. -/
inductive FileError where
  | notFound (path : String)
  | malformed (name : String)
  | notMapping (name : String)
  | isDirectory
  | tooLong (path : String)
  | undecodable
  deriving DecidableEq, Repr, Inhabited

/-- The wording of a file error; what is wrong with the syntax of a file is not spelled out. -/
def FileError.message : FileError → String
  | notFound path => "Configuration file not found: " ++ path
  | malformed name => name ++ ": <syntax error>"
  | notMapping name => name ++ ": top level must be a mapping"
  | isDirectory => ""
  | tooLong path => "[Errno 36] File name too long: " ++ Text.quoted path
  | undecodable => ""

/-! ### Values that cannot be taken -/

/-- What only a mapping has: values under keys, and a list of entries. -/
inductive Member where
  | get
  | items
  deriving DecidableEq, Repr, Inhabited

/-- The name of a member. -/
def Member.name : Member → String
  | get => "get"
  | items => "items"

/-- A value that an operation cannot take: it is of a wrong kind, it holds itself, or it holds an
integer of too many digits.  A key of a wrong kind is named in full or in short.  `noPath` is the
lack of a path where one is needed. -/
inductive Misuse where
  | noMember (kind : Kind) (member : Member)
  | notKey (kind : Kind)
  | notIterable (kind : Kind)
  | unwritable (kind : Kind)
  | unwritableKey (kind : Kind) (inFull : Bool)
  | circular
  | tooManyDigits
  | noPath
  deriving DecidableEq, Repr, Inhabited

/-- The advice at the end of the message on too many digits. -/
def digitAdvice : String := "; use sys.set_int_max_str_digits() to increase the limit"

/-- The wording for too many digits. -/
def digitMessage : String :=
  "Exceeds the limit (" ++ toString Numeral.digitLimit ++ " digits) for integer string conversion"

/-- The wording of a misuse. -/
def Misuse.message : Misuse → String
  | noMember kind member =>
    "'" ++ kind.fullName ++ "' object has no attribute '" ++ member.name ++ "'"
  | notKey kind => "unhashable type: '" ++ kind.fullName ++ "'"
  | notIterable kind => "'" ++ kind.fullName ++ "' object is not iterable"
  | unwritable kind => "Object of type " ++ kind.name ++ " is not JSON serializable"
  | unwritableKey kind inFull =>
    "keys must be str, int, float, bool or None, not " ++
      (if inFull then kind.fullName else kind.name)
  | circular => "Circular reference detected"
  | tooManyDigits => digitMessage ++ digitAdvice
  | noPath => "expected str, bytes or os.PathLike object, not list"

/-! ### Literals -/

/-- A text that is no literal of the kind that its tag or its place asks for, or one of a value that
is too large.  `endless` is a value that refers to itself for its text, or a collection of YAML
inside too many others, and `tooDeep` a list or an object of JSON inside too many others. -/
inductive LiteralError where
  | integer (base : Nat) (text : String)
  | digits (count : Nat)
  | float (text : String)
  | overflow
  | empty
  | truth (text : String)
  | moment
  | notText (kind : Kind)
  | calendar (cause : CalendarError)
  | codePoint
  | codeOverflow
  | endless
  | tooDeep (kind : Kind)
  deriving DecidableEq, Repr, Inhabited

namespace LiteralError

/-- The wording of a literal error; the text of an integer is cut after two hundred characters. -/
def message : LiteralError → String
  | integer base text =>
    "invalid literal for int() with base " ++ toString base ++ ": " ++
      String.ofList ((Text.quoted text).toList.take 200)
  | digits count => digitMessage ++ ": value has " ++ toString count ++ " digits" ++ digitAdvice
  | float text => "could not convert string to float: " ++ Text.quoted text
  | overflow => "int too large to convert to float"
  | empty => "string index out of range"
  | truth text => Text.quoted text
  | moment => "'NoneType' object has no attribute 'groupdict'"
  | notText kind => "expected string or bytes-like object, got '" ++ kind.fullName ++ "'"
  | calendar cause => cause.message
  | codePoint => "chr() arg not in range(0x110000)"
  | codeOverflow => "Python int too large to convert to C int"
  | endless => "maximum recursion depth exceeded"
  | tooDeep kind =>
    "maximum recursion depth exceeded while decoding a JSON " ++
      (if kind = .map then "object" else "array") ++ " from a unicode string"

end LiteralError

/-- The integer that a text denotes in a base; the error names the text. -/
def integerIn (base : Nat) (cs : List Char) : Except LiteralError Int :=
  (Numeral.readInt base cs).mapError fun
    | .malformed => .integer base (String.ofList cs)
    | .tooLong count => .digits count

/-! ### Texts -/

/-- What is wrong with a text: its syntax, or a literal in it. -/
inductive Flaw where
  | malformed
  | literal (cause : LiteralError)
  deriving DecidableEq, Repr, Inhabited

/-! ### All together -/

/-- Anything that can go wrong. -/
inductive Fault where
  | rejected (cause : Rejection)
  | provider (cause : ProviderError)
  | file (cause : FileError)
  | misuse (cause : Misuse)
  | literal (cause : LiteralError)
  deriving DecidableEq, Repr, Inhabited

/-- The wording of a fault. -/
def Fault.message : Fault → String
  | rejected cause => cause.message
  | provider cause => cause.message
  | file cause => cause.message
  | misuse cause => cause.message
  | literal cause => cause.message

/-- A request that is turned down is a fault. -/
instance : MonadLift (Except Rejection) (Except Fault) := ⟨fun r => r.mapError .rejected⟩

/-- A value that cannot be taken is a fault. -/
instance : MonadLift (Except Misuse) (Except Fault) := ⟨fun r => r.mapError .misuse⟩

end FormPublisher
