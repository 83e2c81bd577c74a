import Compliance.Instant

/-!
# Compliance.Instant.Rfc3339

Instants in the notation of RFC 3339, such as `2024-06-01T12:00:00.5+02:00`.

* `Instant.written`    — writes the years 0 to 9999, with the fewest digits of the fraction, or
  tells the part that has no form.
* `Instant.rfc3339?`   — that form where there is one.
* `Instant.text`       — that form, or the full display.
* `Instant.ofRfc3339?` — reads a date, any one ASCII character, a time and an offset.
* `Instant.ofText?`    — reads that form, or a date alone as its midnight in UTC.
-/

namespace Compliance.Instant

/-! ## Writing -/

/-- `Z` in UTC, otherwise the sign, hours and minutes. -/
def offsetText (offset : Int) : List Char :=
  if offset == 0 then ['Z']
  else
    signOf offset :: (Text.padded 2 (offset.natAbs / 3600) ++
      ':' :: Text.padded 2 (offset.natAbs / 60 % 60))

/-- Year, month and day, the year with four digits. -/
def dateText (d : CivilDate) : List Char :=
  Text.padded 4 d.year.natAbs ++ '-' :: (Text.padded 2 d.month ++ '-' :: Text.padded 2 d.day)

def timeText (secondOfDay : Nat) : List Char :=
  threeParts (Text.padded 2 (secondOfDay / 3600)) (Text.padded 2 (secondOfDay / 60 % 60))
    (Text.padded 2 (secondOfDay % 60))

/-- A fraction of zero is left out. -/
def fractionText (subsecond : Nat) : List Char :=
  match fractionDigits subsecond with
  | [] => []
  | ds => '.' :: ds

/-- A part of an instant for which the notation has no form. -/
inductive Component where
  | year
  | offsetHour
  | offsetSecond
  deriving DecidableEq

def Component.name : Component → String
  | .year => "year"
  | .offsetHour => "offset_hour"
  | .offsetSecond => "offset_second"

/-- What is said of an instant that cannot be written. -/
def Component.message (c : Component) : String :=
  "The " ++ c.name ++ " component cannot be formatted into the requested format."

/-- The first part for which the notation has no form: the year has four digits; the offset is below
a day, and a whole number of minutes. -/
def unwritable? (t : Instant) : Option Component :=
  if t.date.year < 0 || 9999 < t.date.year then some .year
  else if 86400 ≤ t.offset.natAbs then some .offsetHour
  else if t.offset.natAbs % 60 != 0 then some .offsetSecond
  else none

/-- Does the notation have a form for the instant? -/
def isWritable (t : Instant) : Bool := t.unwritable?.isNone

def form (t : Instant) : String :=
  String.ofList <|
    dateText t.date ++ 'T' :: (timeText t.secondOfDay ++ fractionText t.subsecond ++
      offsetText t.offset)

def written (t : Instant) : Except Component String := t.unwritable?.elim (.ok t.form) .error

def rfc3339? (t : Instant) : Option String := t.written.toOption

def text (t : Instant) : String := t.rfc3339?.getD t.display

/-! ## Reading -/

/-- Reads a number of exactly `n` digits. -/
def number? (n : Nat) (cs : List Char) : Option (Nat × List Char) :=
  let ds := cs.take n
  if ds.length == n && ds.all Char.isDigit then some (Text.natOfDigits ds, cs.drop n) else none

/-- Reads one given character. -/
def literal? (c : Char) : List Char → Option (List Char)
  | d :: cs => if d == c then some cs else none
  | [] => none

/-- Any one ASCII character stands between the date and the time. -/
def separator? : List Char → Option (List Char)
  | c :: cs => if c.toNat < 128 then some cs else none
  | [] => none

/-- The nanoseconds that the digits of a fraction denote; digits after the ninth are cut off. -/
def nanosOfFraction (ds : List Char) : Nat :=
  Text.natOfDigits (ds.take 9) * Nat.pow 10 (9 - ds.length)

/-- Reads a fraction of a second, if there is one. -/
def fraction? : List Char → Option (Nat × List Char)
  | '.' :: cs =>
    match Text.takeDigits cs with
    | ([], _) => none
    | (ds, rest) => some (nanosOfFraction ds, rest)
  | cs => some (0, cs)

/-- Reads an offset up to the end of the text: `Z` in either case, or a sign, hours, minutes. -/
def offset? : List Char → Option Int
  | ['Z'] => some 0
  | ['z'] => some 0
  | sign :: cs => do
    if sign != '+' && sign != '-' then none
    let (hour, cs) ← number? 2 cs
    let cs ← literal? ':' cs
    let (minute, cs) ← number? 2 cs
    if hour ≤ 23 && minute ≤ 59 && cs.isEmpty then
      let seconds : Int := hour * 3600 + minute * 60
      some (if sign == '-' then -seconds else seconds)
    else none
  | [] => none

/-- Reads a date. -/
def date? (cs : List Char) : Option (CivilDate × List Char) := do
  let (year, cs) ← number? 4 cs
  let cs ← literal? '-' cs
  let (month, cs) ← number? 2 cs
  let cs ← literal? '-' cs
  let (day, cs) ← number? 2 cs
  let d : CivilDate := ⟨year, month, day⟩
  if d.isValid then some (d, cs) else none

/-- Is this the last second of a month in UTC? Only there a leap second can be inserted. -/
def endsMonth (t : Instant) : Bool :=
  match t.toUtc? with
  | some u => u.secondOfDay == 86399 && u.date.isMonthEnd
  | none => false

/-- Reads a full instant. A second numbered 60 is a leap second: it is read as the last
nanosecond in front of it, and refused where there can be none. -/
def ofRfc3339? (cs : List Char) : Option Instant := do
  let (d, cs) ← date? cs
  let cs ← separator? cs
  let (hour, cs) ← number? 2 cs
  let cs ← literal? ':' cs
  let (minute, cs) ← number? 2 cs
  let cs ← literal? ':' cs
  let (second, cs) ← number? 2 cs
  let (nanos, cs) ← fraction? cs
  let offset ← offset? cs
  if hour ≤ 23 && minute ≤ 59 && second ≤ 60 then
    if second == 60 then
      let t ← ofLocal? d (hour * 3600 + minute * 60 + 59) 999999999 offset
      if t.endsMonth then some t else none
    else ofLocal? d (hour * 3600 + minute * 60 + second) nanos offset
  else none

/-- What makes a bare date its midnight in UTC. -/
def midnightSuffix : List Char := ['T', '0', '0', ':', '0', '0', ':', '0', '0', 'Z']

/-- A text of ten characters may be a date alone. -/
def ofText? (cs : List Char) : Option Instant :=
  match ofRfc3339? cs with
  | some t => some t
  | none => if cs.length == 10 then ofRfc3339? (cs ++ midnightSuffix) else none

end Compliance.Instant
