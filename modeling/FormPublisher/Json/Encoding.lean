import FormPublisher.Json.Reader

/-!
# Encodings of JSON

A JSON text that comes as bytes says by its first four bytes how it is encoded: a byte order mark,
or the places of zero bytes, since its first two characters are ASCII.  `Json.readBytes` decodes
the bytes by that rule and reads the text.
-/

namespace FormPublisher.Json

/-- The ways to encode a text in bytes. -/
inductive Encoding where
  | utf8
  | utf16 (bigEndian : Bool)
  | utf32 (bigEndian : Bool)
  deriving DecidableEq, Repr, Inhabited

/-- The encoding of bytes without a byte order mark, by the places of zero bytes. -/
def Encoding.ofZeros (bytes : List UInt8) : Encoding :=
  match bytes with
  | a :: b :: c :: d :: _ =>
    if a = 0 then if b = 0 then utf32 true else utf16 true
    else if b = 0 then if c = 0 ∧ d = 0 then utf32 false else utf16 false
    else utf8
  | [a, b] => if a = 0 then utf16 true else if b = 0 then utf16 false else utf8
  | _ => utf8

/-- The encoding of bytes, and the bytes after the byte order mark. -/
def Encoding.detect (bytes : List UInt8) : Encoding × List UInt8 :=
  match bytes with
  | 0x00 :: 0x00 :: 0xFE :: 0xFF :: rest => (utf32 true, rest)
  | 0xFF :: 0xFE :: 0x00 :: 0x00 :: rest => (utf32 false, rest)
  | 0xFE :: 0xFF :: rest => (utf16 true, rest)
  | 0xFF :: 0xFE :: rest => (utf16 false, rest)
  | 0xEF :: 0xBB :: 0xBF :: rest => (utf8, rest)
  | _ => (ofZeros bytes, bytes)

/-- The number of bytes in the order of an encoding. -/
def ofBytes (bigEndian : Bool) (bytes : List UInt8) : Nat :=
  (if bigEndian then bytes else bytes.reverse).foldl (fun n b => 256 * n + b.toNat) 0

/-- The sixteen-bit units of bytes. -/
def units16? (bigEndian : Bool) : List UInt8 → Option (List Nat)
  | [] => some []
  | [_] => none
  | a :: b :: rest => (units16? bigEndian rest).map (ofBytes bigEndian [a, b] :: ·)

/-- The thirty-two-bit units of bytes. -/
def units32? (bigEndian : Bool) : List UInt8 → Option (List Nat)
  | [] => some []
  | a :: b :: c :: d :: rest =>
    let u := ofBytes bigEndian [a, b, c, d]
    if u < 0x110000 then (units32? bigEndian rest).map (u :: ·) else none
  | _ => none

/-- The text of bytes in an encoding. -/
def Encoding.decode? : Encoding → List UInt8 → Option String
  | utf8, bytes => String.fromUTF8? ⟨bytes.toArray⟩
  | utf16 bigEndian, bytes =>
    (units16? bigEndian bytes).map fun us =>
      String.ofList ((Text.joinPairs us).map Text.ofPoint)
  | utf32 bigEndian, bytes =>
    (units32? bigEndian bytes).map fun us => String.ofList (us.map Text.ofPoint)

/-- The value of a JSON text that comes as bytes. -/
def readBytes (bytes : List UInt8) : Except Flaw Value :=
  let found := Encoding.detect bytes
  match found.1.decode? found.2 with
  | some s => read s
  | none => .error .malformed

end FormPublisher.Json
