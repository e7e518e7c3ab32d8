import FormPublisher.Json.Token

/-!
# Reading JSON

`Json.read` reads a text as a value.  The tokens are taken one by one by a machine whose state
holds the lists and objects that are open around the next token; a text is a JSON text exactly
when all its tokens are taken and one value is left.  Of two members under one key the later value
stands in the earlier place.

Of two flaws in a text the first one counts.  Beside those of the syntax there are an integer of too
many digits and a list or an object inside too many others.  How many are too many is a limit of the
reader: `Json.readWithin` reads with any limit, `Json.read` with the one that is in force.
-/

namespace FormPublisher.Json

/-- A list or an object that is still open; the items of a list stand in reverse. -/
inductive Frame where
  | items (read : List Value)
  | member (read : Entries) (key : Scalar)
  deriving Repr, Inhabited

/-- What may come next, inside the open lists and objects of a stack. -/
inductive State where
  | value (stack : List Frame)
  | firstItem (stack : List Frame)
  | nextItem (read : List Value) (stack : List Frame)
  | firstKey (stack : List Frame)
  | key (read : Entries) (stack : List Frame)
  | colon (read : Entries) (key : Scalar) (stack : List Frame)
  | nextMember (read : Entries) (stack : List Frame)
  | done (v : Value)
  deriving Repr, Inhabited

/-- The state after a whole value. -/
def deliver (v : Value) : List Frame → State
  | [] => .done v
  | .items read :: stack => .nextItem (v :: read) stack
  | .member read key :: stack => .nextMember (Entries.put key v read) stack

/-- The state inside a list or an object that is opened, of a kind; it must stand inside fewer others
than the limit. -/
def enter (limit : Nat) (kind : Kind) (next : List Frame → State) (stack : List Frame) :
    Except Flaw State :=
  if limit ≤ stack.length then .error (.literal (.tooDeep kind)) else .ok (next stack)

/-- The state after the first token of a value. -/
def openValue (limit : Nat) (stack : List Frame) : Token → Except Flaw State
  | .openList => enter limit .list .firstItem stack
  | .openObject => enter limit .map .firstKey stack
  | .atom s => .ok (deliver (.scalar s) stack)
  | _ => .error .malformed

/-- The state after a key, which is a text. -/
def takeKey (read : Entries) (key : Scalar) (stack : List Frame) : Except Flaw State :=
  if key.kind = .text then .ok (.colon read key stack) else .error .malformed

/-- The state after a token. -/
def step (limit : Nat) : State → Token → Except Flaw State
  | .value stack, t => openValue limit stack t
  | .firstItem stack, .closeList => .ok (deliver (.list []) stack)
  | .firstItem stack, t => openValue limit (.items [] :: stack) t
  | .nextItem read stack, .comma => .ok (.value (.items read :: stack))
  | .nextItem read stack, .closeList => .ok (deliver (.list read.reverse) stack)
  | .firstKey stack, .closeObject => .ok (deliver (.map []) stack)
  | .firstKey stack, .atom k => takeKey [] k stack
  | .key read stack, .atom k => takeKey read k stack
  | .colon read k stack, .colon => .ok (.value (.member read k :: stack))
  | .nextMember read stack, .comma => .ok (.key read stack)
  | .nextMember read stack, .closeObject => .ok (deliver (.map read) stack)
  | _, _ => .error .malformed

/-- The state after tokens. -/
def run (limit : Nat) (s : State) (ts : List Token) : Except Flaw State := ts.foldlM (step limit) s

/-- Whether a value may come next. -/
def State.takesValue : State → Bool
  | .value _ | .firstItem _ => true
  | _ => false

/-- The value that is left at the end; a wrong literal counts only where a value may stand. -/
def finish (s : State) : Option Flaw → Except Flaw Value
  | some (.literal cause) => .error (if s.takesValue then .literal cause else .malformed)
  | some .malformed => .error .malformed
  | none =>
    match s with
    | .done v => .ok v
    | _ => .error .malformed

/-- The value of a text that is cut into tokens. -/
def ofLexed (limit : Nat) (l : Lexed) : Except Flaw Value := do
  finish (← run limit (.value []) l.tokens) l.flaw

/-- The value of a text whose lists and objects stand inside fewer others than a limit. -/
def readWithin (limit : Nat) (s : String) : Except Flaw Value := ofLexed limit (lex s.toList)

/-- Lists and objects stand inside fewer others than this. -/
def depthLimit : Nat := 985

/-- The value of a text. -/
def read (s : String) : Except Flaw Value := readWithin depthLimit s

end FormPublisher.Json
