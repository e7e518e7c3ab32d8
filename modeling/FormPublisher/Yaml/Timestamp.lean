import FormPublisher.Calendar
import FormPublisher.Number.Numeral
import FormPublisher.Yaml.Character

/-!
# Timestamps

The texts that denote days and times: `2024-01-31`, or a day, a `T` or blanks, a time of day with a
fraction of a second or without, and an offset from universal time or none.  Month, day and hour may
have one digit each.  `Timestamp.read?` looks at the shape alone; whether there is such a day is
asked by `Timestamp.moment`.
-/

namespace FormPublisher.Yaml

/-- The fields of a time of day; the digits of the fraction are kept as they are written. -/
structure ClockFields where
  hour : Nat
  minute : Nat
  second : Nat
  fraction : List Char
  offset : Option Int
  deriving DecidableEq, Repr, Inhabited

/-- The fields of a timestamp; `isFull` says that month and day have two digits. -/
structure Timestamp where
  year : Nat
  month : Nat
  day : Nat
  isFull : Bool
  clock : Option ClockFields
  deriving DecidableEq, Repr, Inhabited

namespace Timestamp

/-- The digits at the start of a text, if their number is in a range, and what follows them. -/
def digits? (least most : Nat) (cs : List Char) : Option (List Char × List Char) :=
  let run := (cs.take most).takeWhile Char.isDigit
  if least ≤ run.length then some (run, cs.drop run.length) else none

/-- What follows a character. -/
def after? (c : Char) : List Char → Option (List Char)
  | [] => none
  | a :: cs => if a = c then some cs else none

/-- An offset behind its sign: hours, and minutes if there are any. -/
def readOffset? (negative : Bool) (cs : List Char) : Option Int := do
  let (hours, rest) ← digits? 1 2 cs
  let minutes ←
    match rest with
    | [] => some []
    | ':' :: more =>
      match digits? 2 2 more with
      | some (minutes, []) => some minutes
      | _ => none
    | _ => none
  let total : Int := Numeral.ofDigits hours * 60 + Numeral.ofDigits minutes
  return if negative then -total else total

/-- The offset at the end of a timestamp. -/
def readZone? (cs : List Char) : Option (Option Int) :=
  match cs, cs.dropWhile isBlank with
  | [], _ => some none
  | _, ['Z'] => some (some 0)
  | _, '+' :: rest => (readOffset? false rest).map some
  | _, '-' :: rest => (readOffset? true rest).map some
  | _, _ => none

/-- A time of day and an offset. -/
def readClock? (cs : List Char) : Option ClockFields := do
  let (hour, rest) ← digits? 1 2 cs
  let (minute, rest) ← digits? 2 2 (← after? ':' rest)
  let (second, rest) ← digits? 2 2 (← after? ':' rest)
  let (fraction, rest) := match rest with
    | '.' :: more => (more.takeWhile Char.isDigit, more.dropWhile Char.isDigit)
    | _ => ([], rest)
  return {
    hour := Numeral.ofDigits hour
    minute := Numeral.ofDigits minute
    second := Numeral.ofDigits second
    fraction
    offset := ← readZone? rest }

/-- The time of day behind a day. -/
def readRest? : List Char → Option (Option ClockFields)
  | [] => some none
  | c :: cs =>
    if c = 'T' ∨ c = 't' then (readClock? cs).map some
    else if isBlank c then (readClock? (cs.dropWhile isBlank)).map some
    else none

/-- The timestamp that a text denotes. -/
def read? (cs : List Char) : Option Timestamp := do
  let (year, rest) ← digits? 4 4 cs
  let (month, rest) ← digits? 1 2 (← after? '-' rest)
  let (day, rest) ← digits? 1 2 (← after? '-' rest)
  return {
    year := Numeral.ofDigits year
    month := Numeral.ofDigits month
    day := Numeral.ofDigits day
    isFull := month.length = 2 ∧ day.length = 2
    clock := ← readRest? rest }

/-- The microseconds of a fraction of a second, of which six digits count. -/
def microseconds (fraction : List Char) : Nat :=
  Numeral.ofDigits ((fraction ++ List.replicate 6 '0').take 6)

/-- The day or the time of a timestamp. -/
def moment (t : Timestamp) : Except CalendarError (Date ⊕ DateTime) :=
  match t.clock with
  | none => .inl <$> Date.make t.year t.month t.day
  | some c =>
    .inr <$> DateTime.make t.year t.month t.day c.hour c.minute c.second
      (microseconds c.fraction) c.offset

end Timestamp

end FormPublisher.Yaml
