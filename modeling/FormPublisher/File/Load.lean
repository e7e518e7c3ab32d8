import FormPublisher.File.Tree
import FormPublisher.Form.Document
import FormPublisher.Json.Reader
import FormPublisher.Request.Update
import FormPublisher.Text.Case
import FormPublisher.Yaml.Meaning

/-!
# Configuration files

Loading a form document or an update request from a file.  A file is text in UTF-8, whose line ends
are made uniform.  The suffix `.json`, in letters of any case, says that it is JSON; every other
file is YAML.  The top level must be a mapping.

The name of a file stands in front of what is wrong inside it; the whole path is named only when
there is no such file.
-/

namespace FormPublisher

/-- A text whose lines all end with a line feed. -/
def uniformLines : List Char → List Char
  | '\r' :: '\n' :: cs => '\n' :: uniformLines cs
  | '\r' :: cs => '\n' :: uniformLines cs
  | c :: cs => c :: uniformLines cs
  | [] => []

/-- The text of a file. -/
def decodeFile (bytes : List UInt8) : Except FileError String :=
  match String.fromUTF8? ⟨bytes.toArray⟩ with
  | some s => .ok (String.ofList (uniformLines s.toList))
  | none => .error .undecodable

/-- Whether a file of this name holds JSON. -/
def isJsonName (name : String) : Bool := Text.toLower (Path.suffixOf name) == ".json"

/-- The value in a text, by the name of its file; a wrong literal is named without it. -/
def readConfiguration (name s : String) : Except Fault Value :=
  (if isJsonName name then Json.read s else Yaml.read s).mapError fun
    | .malformed => .file (.malformed name)
    | .literal cause => .literal cause

/-- The mapping in a file, by what its path leads to. -/
def loadMapping (path : Path) (entry : Option FileEntry) : Except Fault Entries :=
  match entry with
  | none => .error (.file (.notFound path.toString))
  | some .directory => .error (.file .isDirectory)
  | some .tooLong => .error (.file (.tooLong path.toString))
  | some (.file bytes) => do
    let s ← (decodeFile bytes).mapError .file
    let v ← readConfiguration path.name s
    match v.opened with
    | .map data => return data
    | _ => throw (.file (.notMapping path.name))

/-- The form document in a file. -/
def loadDocument (path : Path) (entry : Option FileEntry) : Except Fault Document := do
  Document.ofEntries (← loadMapping path entry)

/-- The update request in a file. -/
def loadUpdate (path : Path) (entry : Option FileEntry) : Except Fault UpdateRequest := do
  UpdateRequest.ofEntries (← loadMapping path entry)

end FormPublisher
