import FormPublisher.File.Load
import FormPublisher.Publish.Create
import FormPublisher.Publish.Update
import FormPublisher.Settings
import FormPublisher.Text.Digit

/-!
# The command line

A command line names one of three commands and a configuration file: `compile` writes the payload
for a form document without a call to the provider, `create` makes the form, and `update` changes
one.  `Invocation.ofArguments` reads the arguments and `Command.run` carries out a command.

The arguments are looked at from left to right.  A request for help ends that at once, and so does a
word that is no command where one is expected; what is missing or too much shows at the end.  Behind
a double hyphen every argument is a word, but a second double hyphen is no path even there: then the
command is carried out without one, and fails.
-/

namespace FormPublisher

/-- The commands. -/
inductive Command where
  | compile
  | create
  | update
  deriving DecidableEq, Repr, Inhabited

/-- The command of a word. -/
def Command.ofWord? (word : String) : Option Command :=
  if word = "compile" then some compile
  else if word = "create" then some create
  else if word = "update" then some update
  else none

/-- What arguments ask for: a command on a file, whose path may be none, or no more than advice on
their use, with an exit code. -/
inductive Invocation where
  | usage (exit : Nat)
  | run (command : Command) (path : Option String)
  deriving DecidableEq, Repr, Inhabited

/-! ### Arguments -/

/-- What a single argument is. -/
inductive Argument where
  | plain (word : String)
  | help
  | badHelp
  | unknown
  deriving DecidableEq, Repr, Inhabited

namespace Argument

/-- The long option for help. -/
def longHelp : String := "--help"

/-- What the letters behind the short option for help make of it: more of the same change nothing,
and others are options of their own, which are not known. -/
def shortHelp : List Char → Argument
  | [] => help
  | 'h' :: cs => shortHelp cs
  | c :: _ => if c = '=' ∨ c = '-' then badHelp else help

/-- Whether a text is a negative number. -/
def isNegativeNumber (cs : List Char) : Bool :=
  let isDigit (c : Char) : Bool := (Text.digitValue? c).isSome
  match cs with
  | '-' :: rest =>
    match rest.dropWhile isDigit with
    | [] => !rest.isEmpty
    | '.' :: fraction => !fraction.isEmpty && fraction.all isDigit
    | _ => false
  | _ => false

/-- What an argument is that stands before any double hyphen; an option may be shortened. -/
def ofString (s : String) : Argument :=
  match s.toList with
  | '-' :: '-' :: cs =>
    let name := "--" ++ String.ofList (cs.takeWhile (· ≠ '='))
    if longHelp.startsWith name then if cs.contains '=' then badHelp else help
    else if cs.contains ' ' then plain s
    else unknown
  | '-' :: 'h' :: cs => shortHelp cs
  | ['-'] => plain s
  | '-' :: cs => if isNegativeNumber ('-' :: cs) ∨ cs.contains ' ' then plain s else unknown
  | _ => plain s

end Argument

namespace Invocation

/-- The path that a word names; a double hyphen, which is a word only behind another one, names
none. -/
def pathOf? (word : String) : Option String := if word = "--" then none else some word

/-- What the words and the rest of the arguments ask for.  The words so far are the command and the
path; `literal` says that a double hyphen came before, and `flawed` that something was too much. -/
def ofRest (literal flawed : Bool) (command : Option Command) (path : Option String) :
    List String → Invocation
  | [] =>
    match command, path with
    | some c, some p => if flawed then usage 2 else run c (pathOf? p)
    | _, _ => usage 2
  | s :: rest =>
    if s = "--" ∧ !literal then ofRest true flawed command path rest
    else
      match if literal then .plain s else Argument.ofString s with
      | .help => usage 0
      | .badHelp => usage 2
      | .unknown => ofRest literal true command path rest
      | .plain word =>
        match command, path with
        | none, _ =>
          match Command.ofWord? word with
          | some c => ofRest literal flawed (some c) path rest
          | none => usage 2
        | some _, none => ofRest literal flawed command (some word) rest
        | some _, some _ => ofRest literal true command path rest

/-- What arguments ask for. -/
def ofArguments (args : List String) : Invocation := ofRest false false none none args

end Invocation

/-! ### Commands -/

/-- The value that a command gives. -/
def Command.value (c : Command) (settings : Settings) (path : Path) (entry : Option FileEntry) :
    Run Value := do
  match c with
  | compile =>
    let document ← ExceptT.mk (pure (loadDocument path entry))
    return (← Session.drawing document.payload).toValue
  | create =>
    let document ← ExceptT.mk (pure (loadDocument path entry))
    let created ← settings.publisher.createForm document
    return .object [("formId", created.formId), ("formUrl", created.formUrl)]
  | update =>
    let request ← ExceptT.mk (pure (loadUpdate path entry))
    let updated ← settings.publisher.updateForm request
    return .object [("message", .text updated.message.text), ("data", updated.data)]

/-- What a command leaves behind. -/
structure Report where
  exit : Nat
  output : String := ""
  errors : String := ""
  deriving DecidableEq, Repr, Inhabited

namespace Report

/-- The report on a value. -/
def ofValue (v : Value) : Except Misuse Report := do
  return { exit := 0, output := (← Json.write (.indented 2) v) ++ "\n" }

/-- The report on a fault that a user can mend or that the provider answers for; there is none on
others. -/
def ofFault? : Fault → Option Report
  | .rejected cause => some (failure cause.message "")
  | .provider cause =>
    some (failure cause.message (((cause.body.filter (· ≠ "")).map (· ++ "\n")).getD ""))
  | .file .isDirectory | .file (.tooLong _) | .file .undecodable => none
  | .file cause => some (failure cause.message "")
  | .misuse _ | .literal _ => none
where
  /-- The report on a failure, with more lines after its message. -/
  failure (message more : String) : Report :=
    { exit := 1, errors := "Error: " ++ message ++ "\n" ++ more }

end Report

/-- Carries out a command and reports on it; a fault that cannot be reported stays a fault, and so
does a path that is none. -/
def Command.run (c : Command) (settings : Settings) (path : Option Path)
    (entry : Option FileEntry) : Run Report :=
  ExceptT.mk do
    let value : Run Value :=
      match path with
      | some path => c.value settings path entry
      | none => throw (.misuse .noPath)
    match ← value.run with
    | .ok v => return (Report.ofValue v).mapError .misuse
    | .error fault =>
      match Report.ofFault? fault with
      | some report => return .ok report
      | none => return .error fault

end FormPublisher
