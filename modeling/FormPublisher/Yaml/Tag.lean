import FormPublisher.Fault
import FormPublisher.Text.Hex
import FormPublisher.Yaml.Character

/-!
# Tags

A `Tag` is the type that a node declares or that is found for it.  In a text it is written with a
handle, which directives may redefine, or in full between angle brackets; the exclamation mark alone
asks for the type that the content suggests.
-/

namespace FormPublisher.Yaml

/-- The type of a node. -/
inductive Tag where
  | null
  | bool
  | int
  | float
  | text
  | binary
  | timestamp
  | sequence
  | mapping
  | orderedMapping
  | pairs
  | set
  | merge
  | value
  | unknown (uri : String)
  deriving DecidableEq, Repr, Inhabited

/-- The start of the tags of the standard. -/
def standardUri : String := "tag:yaml.org,2002:"

/-- The tags of the standard and their names. -/
def standardTags : List (String × Tag) :=
  [("null", .null), ("bool", .bool), ("int", .int), ("float", .float), ("str", .text),
    ("binary", .binary), ("timestamp", .timestamp), ("seq", .sequence), ("map", .mapping),
    ("omap", .orderedMapping), ("pairs", .pairs), ("set", .set), ("merge", .merge),
    ("value", .value)]

/-- The tag of a full name. -/
def Tag.ofUri (uri : String) : Tag :=
  match standardTags.find? fun t => standardUri ++ t.1 == uri with
  | some t => t.2
  | none => .unknown uri

/-- A tag as it is written. -/
inductive TagSpelling where
  | suggested
  | full (uri : String)
  | short (handle suffix : String)
  deriving DecidableEq, Repr, Inhabited

/-- The handles and what they stand for. -/
abbrev TagHandles := List (String × String)

/-- The handles that need no directive. -/
def TagHandles.standard : TagHandles := [("!", "!"), ("!!", standardUri)]

/-- The full name of a tag, or none if the type is to be found from the content.  A handle must be
known. -/
def TagSpelling.resolve? (handles : TagHandles) : TagSpelling → Option (Option String)
  | suggested => some none
  | full uri => some (if uri = "!" then none else some uri)
  | short handle suffix => (handles.lookup handle).map fun start => some (start ++ suffix)

/-! ### Reading -/

/-- The bytes of a part of a tag, and what follows it; a percent sign and two hexadecimal digits
stand for a byte. -/
def readUriBytes? : List Char → Option (List UInt8 × List Char)
  | '%' :: a :: b :: cs =>
    (Text.readHex? [a, b]).bind fun n =>
      (readUriBytes? cs).map fun r => (UInt8.ofNat n :: r.1, r.2)
  | c :: cs =>
    if c = '%' then none
    else if isUriChar c then (readUriBytes? cs).map fun r => (UInt8.ofNat c.toNat :: r.1, r.2)
    else some ([], c :: cs)
  | [] => some ([], [])

/-- A part of a tag, which is not empty, and what follows it. -/
def readUri? (cs : List Char) : Option (String × List Char) :=
  (readUriBytes? cs).bind fun r =>
    if r.1.isEmpty then none
    else (String.fromUTF8? ⟨r.1.toArray⟩).map fun uri => (uri, r.2)

/-- A handle, which begins with an exclamation mark and ends with another unless a space follows the
first, and what follows it. -/
def readHandle? : List Char → Option (String × List Char)
  | '!' :: cs =>
    if cs.head? = some ' ' then some ("!", cs)
    else
      let name := cs.takeWhile isNameChar
      match cs.dropWhile isNameChar with
      | '!' :: rest => some (String.ofList ('!' :: name ++ ['!']), rest)
      | _ => none
  | _ => none

/-- A tag behind its exclamation mark, and what follows it. -/
def readSpelling? (cs : List Char) : Option (TagSpelling × List Char) :=
  match cs with
  | '<' :: more =>
    (readUri? more).bind fun r =>
      match r.2 with
      | '>' :: rest => some (.full r.1, rest)
      | _ => none
  | _ =>
    if isGap cs.head? then some (.suggested, cs)
    else if (cs.takeWhile fun c => !isSpaceOrEnd (some c)).contains '!' then
      (readHandle? ('!' :: cs)).bind fun h =>
        (readUri? h.2).map fun r => (.short h.1 r.1, r.2)
    else (readUri? cs).map fun r => (.short "!" r.1, r.2)

/-- A tag behind its exclamation mark, which ends at a space or the end of the line. -/
def readTag (cs : List Char) : Except Flaw (TagSpelling × List Char) :=
  match readSpelling? cs with
  | some r => if isSpaceOrEnd r.2.head? then .ok r else .error .malformed
  | none => .error .malformed

/-! ### Anchors -/

/-- The name of an anchor behind its sign, and what follows it. -/
def readAnchor (cs : List Char) : Except Flaw (String × List Char) :=
  let name := cs.takeWhile isNameChar
  let rest := cs.dropWhile isNameChar
  let ends (c : Char) : Bool := ['?', ':', ',', ']', '\x7d', '%', '@', Char.ofNat 96].contains c
  if !name.isEmpty && (isGap rest.head? || rest.head?.any ends) then
    .ok (String.ofList name, rest)
  else .error .malformed

end FormPublisher.Yaml
