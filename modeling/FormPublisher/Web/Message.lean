import FormPublisher.Text.Hex
import FormPublisher.Value

/-!
# Requests and responses

What a web server is asked and what it answers.  A request names a method and a target; the path of
a target is what stands in it behind the names of a scheme and of a server and before a query, with
percent signs decoded and one slash in front.

Every response carries the three headers that let scripts of other sites read it.
-/

namespace FormPublisher

/-! ### Requests -/

/-- A request to the server. -/
structure WebRequest where
  method : String
  target : String
  body : List UInt8 := []
  deriving Repr, Inhabited

namespace WebRequest

/-- A text with the characters that percent signs stand for; only those of ASCII are told apart. -/
def decodePercent : List Char → List Char
  | '%' :: a :: b :: cs =>
    match Text.readHex? [a, b] with
    | some n => Char.ofNat n :: decodePercent cs
    | none => '%' :: decodePercent (a :: b :: cs)
  | c :: cs => c :: decodePercent cs
  | [] => []

/-- Whether a character can stand in the name of a scheme. -/
def isSchemeChar (c : Char) : Bool := c.isAlphanum || c = '+' || c = '-' || c = '.'

/-- A target without the name of a scheme in front. -/
def dropScheme (cs : List Char) : List Char :=
  match cs.dropWhile isSchemeChar with
  | ':' :: rest => if cs.head?.any Char.isAlpha then rest else cs
  | _ => cs

/-- A target without the name of a server in front. -/
def dropAuthority : List Char → List Char
  | '/' :: '/' :: cs => cs.dropWhile fun c => c ≠ '/' ∧ c ≠ '?' ∧ c ≠ '#'
  | cs => cs

/-- A target without blanks and control characters in front, and without tabs and line ends. -/
def dropControls (cs : List Char) : List Char :=
  (cs.dropWhile fun c => c.toNat ≤ 32).filter fun c => c ≠ '\t' ∧ c ≠ '\n' ∧ c ≠ '\r'

/-- What stands in a target between the name of a server and a query. -/
def asked (cs : List Char) : List Char :=
  (dropAuthority (dropScheme (dropControls cs))).takeWhile fun c => c ≠ '?' ∧ c ≠ '#'

/-- The path of a request.  A server may be named once for the connection and once more for the
request, so its name is looked for twice. -/
def path (r : WebRequest) : String :=
  String.ofList ('/' :: (decodePercent (asked (asked r.target.toList))).dropWhile (· = '/'))

end WebRequest

/-! ### Responses -/

/-- The body of a response. -/
inductive WebBody where
  | page (s : String)
  | json (v : Value)
  deriving Repr, Inhabited

/-- The headers for scripts of other sites. -/
structure CrossOrigin where
  origin : String
  methods : String := "GET, POST, OPTIONS"
  headers : String := "Content-Type"
  deriving DecidableEq, Repr, Inhabited

/-- A response of the server. -/
structure WebResponse where
  status : Int
  crossOrigin : CrossOrigin
  body : WebBody
  deriving Repr, Inhabited

/-- A status and a body, which together with the headers make a response. -/
abbrev WebAnswer := Int × WebBody

end FormPublisher
