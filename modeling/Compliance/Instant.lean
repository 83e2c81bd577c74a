import Compliance.Calendar
import Compliance.Span
import Compliance.Text.Digits

/-!
# Compliance.Instant

Moments of time, each with the offset from UTC in which it is told.

* `Instant`            — a moment and an offset; the local date lies in the years -9999 to 9999.
* `Instant.sameMoment` — equality of the moments; `==` on instants.
* `Instant.ofUnixNanos?` — an instant in UTC, from the nanoseconds since 1970.
* `Instant.shift?`     — an instant later by a span, told in the same offset.
* `Instant.toUtc?`     — the same moment told in UTC.
* `Instant.utcMidnight?` — the midnight at which its day in UTC begins.
* `Instant.display`    — date, time and offset in full.
-/

namespace Compliance

open Compliance.Span (nanosPerSecond)

/-- The first and the last local second of the calendar, counted from 1970-01-01T00:00:00. -/
def Instant.firstSecond : Int := -377705116800

def Instant.lastSecond : Int := 253402300799

/-- Offsets stay below twenty-six hours. -/
def Instant.maxOffset : Int := 93599

/-- The local time `nanos + offset`, in nanoseconds since 1970-01-01, is in the calendar. -/
def Instant.InCalendar (nanos offset : Int) : Prop :=
  Instant.firstSecond * nanosPerSecond ≤ nanos + offset * nanosPerSecond ∧
    nanos + offset * nanosPerSecond < (Instant.lastSecond + 1) * nanosPerSecond ∧
    -Instant.maxOffset ≤ offset ∧ offset ≤ Instant.maxOffset

instance (nanos offset : Int) : Decidable (Instant.InCalendar nanos offset) := by
  unfold Instant.InCalendar; infer_instance

/-- `nanos` counts the nanoseconds since 1970-01-01T00:00:00Z, `offset` the seconds by which the
local time is ahead of UTC. -/
structure Instant where
  nanos : Int
  offset : Int
  inCalendar : Instant.InCalendar nanos offset
  deriving DecidableEq

namespace Instant

def of? (nanos offset : Int) : Option Instant :=
  if h : InCalendar nanos offset then some ⟨nanos, offset, h⟩ else none

/-- The instant so many nanoseconds after 1970-01-01T00:00:00Z, told in UTC. -/
def ofUnixNanos? (nanos : Int) : Option Instant := of? nanos 0

def epoch : Instant := ⟨0, 0, by decide⟩

instance : Inhabited Instant := ⟨epoch⟩

/-! ## Moments -/

def sameMoment (a b : Instant) : Bool := a.nanos == b.nanos

instance : BEq Instant := ⟨sameMoment⟩

def order (a b : Instant) : Ordering :=
  if a.nanos < b.nanos then .lt else if a.nanos = b.nanos then .eq else .gt

/-- The span from `b` to `a`. -/
def since (a b : Instant) : Span := ⟨a.nanos - b.nanos⟩

/-- The local time of the result has to stay in the calendar. -/
def shift? (t : Instant) (s : Span) : Option Instant := of? (t.nanos + s.nanos) t.offset

def toUtc? (t : Instant) : Option Instant := of? t.nanos 0

/-! ## Local time -/

/-- Seconds of the local time since 1970-01-01T00:00:00. -/
def localSecond (t : Instant) : Int := t.nanos / nanosPerSecond + t.offset

/-- Nanoseconds since the last full second. -/
def subsecond (t : Instant) : Nat := (t.nanos % nanosPerSecond).toNat

def date (t : Instant) : CivilDate := CivilDate.ofDays (t.localSecond / 86400)

/-- Seconds since local midnight. -/
def secondOfDay (t : Instant) : Nat := (t.localSecond % 86400).toNat

/-- The instant at which clocks with the given offset show a date and a time of the day. -/
def ofLocal? (date : CivilDate) (secondOfDay : Nat) (subsecond : Nat) (offset : Int) :
    Option Instant :=
  of? ((date.toDays * 86400 + secondOfDay - offset) * nanosPerSecond + subsecond) offset

/-- The same moment told in UTC, with its time of the day replaced by midnight. -/
def utcMidnight? (t : Instant) : Option Instant :=
  t.toUtc?.bind fun utc => ofLocal? utc.date 0 0 utc.offset

/-! ## Text -/

/-- The digits of a part of a second without the zeros at their end. -/
def fractionDigits (subsecond : Nat) : List Char :=
  ((Text.padded 9 subsecond).reverse.dropWhile (· == '0')).reverse

def signOf (z : Int) : Char := if z < 0 then '-' else '+'

/-- Two digits each for hours, minutes and seconds. -/
def threeParts (hour minute second : List Char) : List Char :=
  hour ++ ':' :: (minute ++ ':' :: second)

/-- The year has four digits, the hour as many as it needs, the fraction at least one. -/
def display (t : Instant) : String :=
  let d := t.date
  let s := t.secondOfDay
  let o := t.offset.natAbs
  let year := (if d.year < 0 then ['-'] else []) ++ Text.padded 4 d.year.natAbs
  let fraction := match fractionDigits t.subsecond with
    | [] => ['0']
    | ds => ds
  String.ofList <|
    year ++ '-' :: (Text.padded 2 d.month ++ '-' :: (Text.padded 2 d.day ++ ' ' ::
      (threeParts (Text.digits (s / 3600)) (Text.padded 2 (s / 60 % 60)) (Text.padded 2 (s % 60)) ++
        '.' :: (fraction ++ ' ' :: signOf t.offset ::
          threeParts (Text.padded 2 (o / 3600)) (Text.padded 2 (o / 60 % 60))
            (Text.padded 2 (o % 60))))))

end Instant

end Compliance
