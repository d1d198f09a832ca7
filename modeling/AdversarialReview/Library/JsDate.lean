/-! Timestamps as texts: how JavaScript and SQLite read them, and comparing by the readings. -/

/--
The conversions between a timestamp text and its milliseconds.

Which texts parse beyond the ISO format is the engine's choice, so no text is fixed here.
-/
class JsDate where
  /-- The milliseconds of a text, absent where parsing yields no number. -/
  parse : String → Option Int
  parse_empty : parse "" = none
  /-- The canonical text of an instant, absent outside the range a date can hold. -/
  toISOString : Int → Option String

namespace JsDate

variable [JsDate]

/-- Both texts parse and the first instant is at or past the second. -/
def reached (now due : String) : Bool :=
  match parse now, parse due with
  | some now, some due => due ≤ now
  | _, _ => false

/-- A text shifted by a number of milliseconds, refusing an instant outside the date range. -/
def shift (start : Int) (ms : Int) : Except String String :=
  match toISOString (start + ms) with
  | some text => .ok text
  | none => .error "Invalid time value"

end JsDate

/-- The database's own reading of a timestamp text, as a count of milliseconds. -/
class SqliteDate where
  /-- The Julian day of a text, absent where the database yields no number. -/
  julianday : String → Option Int

namespace SqliteDate

/-- The comparison of two Julian days, false where either is absent. -/
def reached [SqliteDate] (now due : String) : Bool :=
  match julianday due, julianday now with
  | some due, some now => due ≤ now
  | _, _ => false

end SqliteDate

namespace JsDate

def digits? (text : List Char) : Option Int :=
  text.foldlM (fun value char =>
    if char.isDigit then some (10 * value + (char.toNat - '0'.toNat : Nat)) else none) 0

/-- The days from the epoch to a date of the proleptic Gregorian calendar. -/
def daysFromCivil (year month day : Int) : Int :=
  -- Counting years from March puts the leap day at the end of a year.
  let year := if month ≤ 2 then year - 1 else year
  let month := if month ≤ 2 then month + 9 else month - 3
  let era := year / 400
  let yearOfEra := year % 400
  let dayOfYear := (153 * month + 2) / 5 + day - 1
  era * 146097 + yearOfEra * 365 + yearOfEra / 4 - yearOfEra / 100 + dayOfYear - 719468

/-- The date that many days from the epoch. -/
def civilFromDays (days : Int) : Int × Int × Int :=
  let days := days + 719468
  let dayOfEra := days % 146097
  let yearOfEra :=
    (dayOfEra - dayOfEra / 1460 + dayOfEra / 36524 - dayOfEra / 146096) / 365
  let dayOfYear := dayOfEra - (365 * yearOfEra + yearOfEra / 4 - yearOfEra / 100)
  let month := (5 * dayOfYear + 2) / 153
  let year := yearOfEra + days / 146097 * 400
  let day := dayOfYear - (153 * month + 2) / 5 + 1
  if month < 10 then (year, month + 3, day) else (year + 1, month - 9, day)

/-- The milliseconds of a text in the canonical format of a date. -/
def parseIso (text : String) : Option Int :=
  match text.toList with
  | [y₁, y₂, y₃, y₄, '-', m₁, m₂, '-', d₁, d₂, 'T', h₁, h₂, ':', n₁, n₂, ':', s₁, s₂, '.',
      f₁, f₂, f₃, 'Z'] => do
    let year ← digits? [y₁, y₂, y₃, y₄]
    let month ← digits? [m₁, m₂]
    let day ← digits? [d₁, d₂]
    let hour ← digits? [h₁, h₂]
    let minute ← digits? [n₁, n₂]
    let second ← digits? [s₁, s₂]
    let fraction ← digits? [f₁, f₂, f₃]
    if 1 ≤ month ∧ month ≤ 12 ∧ 1 ≤ day ∧ day ≤ 31 ∧ hour ≤ 23 ∧ minute ≤ 59 ∧ second ≤ 59 then
      some ((((daysFromCivil year month day * 24 + hour) * 60 + minute) * 60 + second) * 1000
        + fraction)
    else none
  | _ => none

def padded (width : Nat) (value : Int) : String :=
  let text := toString value.natAbs
  String.ofList (List.replicate (width - text.length) '0') ++ text

def formatIso (ms : Int) : Option String :=
  if ms.natAbs ≤ 8640000000000000 then
    let (year, month, day) := civilFromDays (ms / 86400000)
    let clock := ms % 86400000
    let yearText :=
      if 0 ≤ year ∧ year ≤ 9999 then padded 4 year
      else (if year < 0 then "-" else "+") ++ padded 6 year
    some (yearText ++ "-" ++ padded 2 month ++ "-" ++ padded 2 day ++ "T" ++
      padded 2 (clock / 3600000) ++ ":" ++ padded 2 (clock / 60000 % 60) ++ ":" ++
      padded 2 (clock / 1000 % 60) ++ "." ++ padded 3 (clock % 1000) ++ "Z")
  else none

@[reducible] def isoDates : JsDate where
  parse := parseIso
  parse_empty := by decide
  toISOString := formatIso

/-- A database that reads the same texts. -/
@[reducible] def isoSqlite : SqliteDate where
  julianday text := (parseIso text).map (· + 210866760000000)

end JsDate
