import FormPublisher.File.Load
import FormPublisher.Proofs.Json.Encoding
import FormPublisher.Proofs.Json.Reader
import FormPublisher.Proofs.Outcome

/-!
# Line ends of JSON files

The line ends of a file are made uniform before its text is read, and those of a request are not.
For JSON this makes no difference (`Json.readWithin_uniformLines`): between tokens all line ends are
white space, a word ends at each of them, and text between quotation marks holds none as it is, nor
can one follow a backslash or stand in a code escape.  So whatever the lexer is inside of, both
characters of line ends do the same (`Json.advance_carriageReturn`), and the second of two does
nothing (`Json.lexFrom_lineFeed_lineFeed`).

A file of JSON is therefore loaded as its text is read (`loadMapping_of_json`), and but for zero
characters at its start as its bytes are read from the body of a request
(`loadMapping_isLoadedAsRead`).
-/

namespace FormPublisher

/-! ### Lexing -/

namespace Json

/-- In every mode both characters of line ends do the same. -/
theorem advance_carriageReturn (mode : Mode) : advance mode '\r' = advance mode '\n' := by
  cases mode with
  | between => rfl
  | word read => rfl
  | text read => rfl
  | escape read => rfl
  | code read left code => rfl

/-- Behind a line end the lexer is inside of nothing. -/
theorem eq_between_of_advance_lineFeed {mode next : Mode} {ts : List Token}
    (h : advance mode '\n' = .ok (next, ts)) : next = .between := by
  cases mode with
  | between =>
    obtain ⟨rfl, -⟩ := Prod.mk.inj (Except.ok.inj h)
    rfl
  | word read =>
    have hends : endsWord '\n' = true := by decide
    rw [advance, if_pos hends] at h
    obtain ⟨t, -, ht⟩ := map_eq_ok_iff.mp h
    exact (Prod.mk.inj ht).1.symm
  | text read => cases h
  | escape read => cases h
  | code read left code => cases h

/-- Characters that do the same may stand in each other's place, before texts that do the same. -/
theorem lexFrom_cons_congr {mode : Mode} {c d : Char} {cs ds : List Char}
    (hadvance : advance mode c = advance mode d)
    (h : ∀ next, lexFrom next cs = lexFrom next ds) :
    lexFrom mode (c :: cs) = lexFrom mode (d :: ds) := by
  cases hc : advance mode c with
  | error flaw => rw [lexFrom_cons_of_error hc, lexFrom_cons_of_error (hadvance ▸ hc)]
  | ok r => rw [lexFrom_cons hc, lexFrom_cons (hadvance ▸ hc), h]

/-- One line end is as good as two. -/
theorem lexFrom_lineFeed_lineFeed (mode : Mode) (cs : List Char) :
    lexFrom mode ('\n' :: '\n' :: cs) = lexFrom mode ('\n' :: cs) := by
  cases h : advance mode '\n' with
  | error flaw => rw [lexFrom_cons_of_error h, lexFrom_cons_of_error h]
  | ok r =>
    obtain ⟨next, ts⟩ := r
    obtain rfl := eq_between_of_advance_lineFeed h
    have hspace : ∀ c ∈ ['\n'], isSpace c = true := by
      intro c hc
      rw [List.mem_singleton.mp hc]
      rfl
    have hpassed : lexFrom .between ('\n' :: cs) = lexFrom .between cs :=
      lexFrom_space_append hspace cs
    rw [lexFrom_cons h, lexFrom_cons h, hpassed]

/-- Uniform line ends leave the tokens as they are, and what is wrong behind them. -/
theorem lexFrom_uniformLines (mode : Mode) (cs : List Char) :
    lexFrom mode (uniformLines cs) = lexFrom mode cs := by
  -- by the recursion that makes lines uniform, in all modes at once: a line end may change the mode
  induction cs using uniformLines.induct generalizing mode with
  | case1 cs ih =>
    calc lexFrom mode (uniformLines ('\r' :: '\n' :: cs))
        = lexFrom mode ('\n' :: uniformLines cs) := by rw [uniformLines]
      _ = lexFrom mode ('\n' :: cs) := lexFrom_cons_congr rfl ih
      _ = lexFrom mode ('\n' :: '\n' :: cs) := (lexFrom_lineFeed_lineFeed mode cs).symm
      _ = lexFrom mode ('\r' :: '\n' :: cs) :=
        lexFrom_cons_congr (advance_carriageReturn mode).symm fun _ => rfl
  | case2 cs hpair ih =>
    rw [uniformLines]
    · exact lexFrom_cons_congr (advance_carriageReturn mode).symm ih
    · exact hpair
  | case3 c cs hpair hsingle ih =>
    rw [uniformLines]
    · exact lexFrom_cons_congr rfl ih
    · exact hpair
    · exact hsingle
  | case4 => rfl

/-- A text is read as it is with uniform line ends, whatever the limit for lists and objects inside
each other: it has the same value, or the same is wrong with it. -/
theorem readWithin_uniformLines (limit : Nat) (s : String) :
    readWithin limit (String.ofList (uniformLines s.toList)) = readWithin limit s := by
  rw [readWithin, readWithin, String.toList_ofList, lex, lex, lexFrom_uniformLines]

end Json

/-! ### Decoding -/

/-- The bytes of a text are decoded to its uniform lines. -/
theorem decodeFile_utf8Bytes (t : String) :
    decodeFile (utf8Bytes t) = .ok (String.ofList (uniformLines t.toList)) := by
  rw [decodeFile, fromUTF8?_utf8Bytes]

/-- Bytes that are not decoded are those of no text. -/
theorem decodeFile_eq_error_iff {bytes : List UInt8} {cause : FileError} :
    decodeFile bytes = .error cause ↔ cause = .undecodable ∧ ∀ t, utf8Bytes t ≠ bytes := by
  unfold decodeFile
  cases h : String.fromUTF8? ⟨bytes.toArray⟩ with
  | none =>
    have hnone := fromUTF8?_eq_none_iff.mp h
    constructor
    · intro hcause
      exact ⟨(Except.error.inj hcause).symm, hnone⟩
    · rintro ⟨rfl, -⟩
      rfl
  | some t =>
    constructor
    · intro hcause
      cases hcause
    · rintro ⟨-, hnone⟩
      exact absurd (fromUTF8?_eq_some_iff.mp h) (hnone t)

/-! ### Loading -/

/-- The value of a text with uniform lines, by the name of its file. -/
def parse (name t : String) : Except Flaw Value :=
  let lines := String.ofList (uniformLines t.toList)
  if isJsonName name then Json.read lines else Yaml.read lines

/-- For the value of a JSON text the line ends do not matter. -/
theorem parse_of_json {name : String} (hname : isJsonName name) (t : String) :
    parse name t = Json.read t := by
  unfold parse
  rw [if_pos hname]
  exact Json.readWithin_uniformLines Json.depthLimit t

/-- What a file comes to, by the value of its text. -/
def mappingOfValue (name : String) : Except Flaw Value → Except Fault Entries
  | .ok (.map es) => .ok es
  | .ok _ => .error (.file (.notMapping name))
  | .error .malformed => .error (.file (.malformed name))
  | .error (.literal cause) => .error (.literal cause)

/-- A text is loaded as its value is. -/
theorem loadMapping_utf8Bytes (path : Path) (t : String) :
    loadMapping path (some (.file (utf8Bytes t))) =
      mappingOfValue path.name (Value.opened <$> parse path.name t) := by
  rw [loadMapping, decodeFile_utf8Bytes, mapError_ok, ok_bind, readConfiguration]
  show ((parse path.name t).mapError _ >>= _) = _
  cases parse path.name t with
  | error flaw =>
    cases flaw with
    | malformed => rfl
    | literal cause => rfl
  | ok v =>
    rw [mapError_ok, ok_bind, map_ok]
    cases v.opened with
    | map es => rfl
    | _ => rfl

/-- A file of JSON is loaded as its text is read. -/
theorem loadMapping_of_json {path : Path} (hname : isJsonName path.name) (t : String) :
    loadMapping path (some (.file (utf8Bytes t))) = mappingOfValue path.name (Json.read t) := by
  have hopened : Value.opened <$> Json.read t = Json.read t := by
    cases h : Json.read t with
    | error flaw => rfl
    | ok v => rw [map_ok, Value.opened_of_isJson (Json.isJson_of_read h)]
  rw [loadMapping_utf8Bytes, parse_of_json hname, hopened]

/-- A text is loaded from a file as it is read from the body of a request. -/
structure IsLoadedAsRead (path : Path) (t : String) : Prop where
  /-- Its line ends change neither its value nor what is wrong with it, whatever the limit for lists
  and objects inside each other. -/
  lineEnds : ∀ limit, Json.readWithin limit (String.ofList (uniformLines t.toList)) =
    Json.readWithin limit t
  /-- A mapping is loaded if the text is an object, and only then; it is the one that is read. -/
  mapping : ∀ es, loadMapping path (some (.file (utf8Bytes t))) = .ok es ↔
    Json.read t = .ok (.map es)
  /-- A text that is no JSON is a configuration error. -/
  malformed : Json.read t = .error .malformed →
    loadMapping path (some (.file (utf8Bytes t))) = .error (.file (.malformed path.name))
  /-- So is a text with a value that is no object. -/
  notMapping : ∀ v, Json.read t = .ok v → (∀ es, v ≠ .map es) →
    loadMapping path (some (.file (utf8Bytes t))) = .error (.file (.notMapping path.name))
  /-- As the body of a request the text is read alike, value or flaw, if there is no zero character
  among its first two. -/
  body : '\x00' ∉ t.toList.take 2 → Json.readBytes (utf8Bytes t) = Json.read t
  /-- A text with a zero character there is no JSON. -/
  zero : '\x00' ∈ t.toList.take 2 → Json.read t = .error .malformed

/-- Loading a text from a file of JSON is reading it as the body of a request, for every text that
does not begin with a byte order mark. -/
theorem loadMapping_isLoadedAsRead {path : Path} (hname : isJsonName path.name) {t : String}
    (hmark : t.toList.head? ≠ some '\uFEFF') : IsLoadedAsRead path t := by
  have hload := loadMapping_of_json hname t
  refine ⟨fun limit => Json.readWithin_uniformLines limit t, ?_, ?_, ?_,
    Json.readBytes_utf8Bytes hmark, Json.read_of_zero⟩
  · intro es
    rw [hload]
    constructor
    · intro h
      unfold mappingOfValue at h
      split at h
      case h_1 es' hread =>
        rw [hread, Except.ok.inj h]
      all_goals cases h
    · intro hread
      rw [hread, mappingOfValue]
  · intro hread
    rw [hload, hread, mappingOfValue]
  · intro v hread hv
    rw [hload, hread]
    cases v with
    | map es => exact absurd rfl (hv es)
    | _ => rfl

/-- Lines that end in a carriage return are no other lines. -/
theorem loadMapping_isLoadedAsRead_of_carriageReturns :
    let path : Path := { parts := ["forms", "intake.JSON"] }
    let bytes := utf8Bytes "\x7b\r\n\"title\":\r\"Intake\"\x7d"
    loadMapping path (some (.file bytes)) = .ok [(.text "title", .text "Intake")] ∧
      Json.readBytes bytes = .ok (.map [(.text "title", .text "Intake")]) := by
  intro path bytes
  have hread : Json.read "\x7b\r\n\"title\":\r\"Intake\"\x7d" =
      .ok (.map [(.text "title", .text "Intake")]) := rfl
  have hloaded : IsLoadedAsRead path "\x7b\r\n\"title\":\r\"Intake\"\x7d" :=
    loadMapping_isLoadedAsRead (by decide) (by decide)
  constructor
  · exact (hloaded.mapping _).mpr hread
  · rw [hloaded.body (by decide), hread]

/-- With zero characters between the others a text may be read as another one from the body of a
request, in units of two bytes, but it is refused in a file. -/
theorem loadMapping_of_zero_characters :
    let path : Path := { parts := ["f.json"] }
    let t := "\x7b\x00\x7d\x00"
    t.toList.head? ≠ some '\uFEFF' ∧ Json.readBytes (utf8Bytes t) = .ok (.map []) ∧
      loadMapping path (some (.file (utf8Bytes t))) = .error (.file (.malformed "f.json")) := by
  intro path t
  have hname : isJsonName path.name = true := by decide
  have hbytes : utf8Bytes t = [0x7B, 0x00, 0x7D, 0x00] := by decide
  have hread : Json.read t = .error .malformed := Json.read_of_zero (by decide)
  refine ⟨by decide, ?_, ?_⟩
  · rw [hbytes]
    rfl
  · rw [loadMapping_of_json hname, hread]
    rfl

end FormPublisher
