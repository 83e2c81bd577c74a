import Compliance.Calendar
import Compliance.Toml.Cursor

/-!
# Compliance.Toml.Moment

Dates and times.

* `readMoment?` — the text of a date, of a time or of both, if one stands at a place.
-/

namespace Compliance.Toml

/-- The number that exactly `width` digits at a place denote. -/
def digits? (width : Nat) (c : Cursor) : Option Nat :=
  let ds := c.rest.take width
  if ds.length == width && ds.all Char.isDigit then some (Text.natOfDigits ds) else none

/-- Reads a number of two digits within bounds. -/
def readPart (subject : Subject) (low high : Nat) (c : Cursor) : Except Error (Nat × Cursor) :=
  match digits? 2 c with
  | none => .error (c.fault (.inside subject))
  | some n =>
    if low ≤ n && n ≤ high then .ok (n, c.skip 2)
    else .error (c.fault ⟨some subject, [], some .outOfRange⟩)

/-- Reads a given character. -/
def readSeparator (subject : Subject) (char : Char) (c : Cursor) : Except Error Cursor :=
  if c.sees char then .ok (c.skip 1) else .error (c.fault (.inside subject))

/-- The place behind a fraction of a second; a point without digits is none. -/
def skipFraction (c : Cursor) : Cursor :=
  if c.sees '.' then
    let stop := (c.skip 1).skipWhile Char.isDigit
    if stop.offset == c.offset + 1 then c else stop
  else c

/-- The place behind a time, if an hour and a colon stand at a place. -/
def readTime? (subject : Subject) (c : Cursor) : Option (Except Error Cursor) :=
  match digits? 2 c with
  | none => none
  | some hour =>
    if 23 < hour || !(c.skip 2).sees ':' then none
    else some do
      let (_, c) ← readPart subject 0 59 (c.skip 3)
      let c ← readSeparator subject ':' c
      let (_, c) ← readPart subject 0 60 c
      .ok (skipFraction c)

/-- The place behind an offset, or the same place where there is none. -/
def skipOffset (c : Cursor) : Except Error Cursor :=
  if c.sees 'Z' || c.sees 'z' then .ok (c.skip 1)
  else if c.sees '+' || c.sees '-' then do
    let (_, c) ← readPart .offset 0 23 (c.skip 1)
    let c ← readSeparator .offset ':' c
    let (_, c) ← readPart .offset 0 59 c
    .ok c
  else .ok c

/-- Reads the month and the day behind a year and its hyphen. -/
def readDate (year : Nat) (c : Cursor) : Except Error Cursor := do
  let (month, c) ← readPart .dateTime 1 12 c
  let day ← readSeparator .dateTime '-' c
  let (n, c) ← readPart .dateTime 1 31 day
  if CivilDate.monthLength year month < n then
    .error (day.fault ⟨some .dateTime, [], some .outOfRange⟩)
  else .ok c

/-- The place behind the time that may follow a date. -/
def skipTime (c : Cursor) : Except Error Cursor :=
  if c.sees 'T' || c.sees 't' || c.sees ' ' then
    match readTime? .dateTime (c.skip 1) with
    | none => .ok c
    | some (.error e) => .error e
    | some (.ok c) => skipOffset c
  else .ok c

/-- The place behind a date, a time or both, if one begins at a place: a year and a hyphen, or an
hour and a colon. -/
def momentEnd? (c : Cursor) : Option (Except Error Cursor) :=
  match digits? 4 c with
  | some year =>
    if (c.skip 4).sees '-' then some ((readDate year (c.skip 5)).bind skipTime)
    else readTime? .time c
  | none => readTime? .time c

/-- Reads a date, a time or both, if one begins at a place. -/
def readMoment? (c : Cursor) : Option (Except Error (Scalar × Cursor)) :=
  (momentEnd? c).map fun r => r.map fun stop =>
    (.time (String.ofList (stop.textSince c)), stop)

end Compliance.Toml
