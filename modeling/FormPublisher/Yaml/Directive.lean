import FormPublisher.Number.Numeral
import FormPublisher.Yaml.BlockScalar
import FormPublisher.Yaml.Tag

/-!
# Directives

A directive is a line in front of a document.  It gives the version of YAML, defines a tag handle,
or is of a kind that is reserved, in which case the rest of its line is ignored.
-/

namespace FormPublisher.Yaml

/-- A directive. -/
inductive Directive where
  | version (major minor : Nat)
  | handle (name uri : String)
  | reserved
  deriving DecidableEq, Repr, Inhabited

/-- A number, and what follows it. -/
def readNumber (cs : List Char) : Except Flaw (Nat × List Char) :=
  let digits := cs.takeWhile Char.isDigit
  if digits.isEmpty then .error .malformed
  else
    match integerIn 10 digits with
    | .ok n => .ok (n.toNat, cs.dropWhile Char.isDigit)
    | .error cause => .error (.literal cause)

/-- Two numbers with a point between them, and what follows. -/
def readVersion (cs : List Char) : Except Flaw (Directive × List Char) := do
  let major ← readNumber cs
  match major.2 with
  | '.' :: more =>
    let minor ← readNumber more
    return (.version major.1 minor.1, minor.2)
  | _ => throw .malformed

/-- A handle and what it stands for, and what follows. -/
def readDefinition? (cs : List Char) : Option (Directive × List Char) :=
  (readHandle? cs).bind fun h =>
    if h.2.head? = some ' ' then
      (readUri? (h.2.dropWhile (· = ' '))).map fun r => (.handle h.1 r.1, r.2)
    else none

/-- What a directive says behind its name, and what follows. -/
def readParameters (name : String) (cs : List Char) : Except Flaw (Directive × List Char) :=
  let parameters := cs.dropWhile (· = ' ')
  if name = "YAML" then readVersion parameters
  else if name = "TAG" then
    match readDefinition? parameters with
    | some r => .ok r
    | none => .error .malformed
  else .ok (.reserved, cs.dropWhile fun c => !isBreak c)

/-- A directive behind its percent sign, and the lines after it. -/
def readDirective (cs : List Char) : Except Flaw (Directive × List Char) := do
  let name := cs.takeWhile isNameChar
  let rest := cs.dropWhile isNameChar
  if name.isEmpty || !isSpaceOrEnd rest.head? then throw .malformed
  let r ← readParameters (String.ofList name) rest
  let lineEnd := dropComment r.2
  if isSpaceOrEnd r.2.head? && isLineEnd lineEnd.head? then return (r.1, lineEnd.tail)
  else throw .malformed

end FormPublisher.Yaml
