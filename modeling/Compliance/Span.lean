import Compliance.Text.Digits

/-!
# Compliance.Span

Lengths of time, in nanoseconds.

* `Span`            — a length, possibly negative.
* `Span.isoText`    — `PT` with whole minutes, or whole seconds where those are no whole minutes.
* `Span.unitsText`  — days, hours, minutes, seconds and parts of a second.
-/

namespace Compliance

structure Span where
  nanos : Int
  deriving DecidableEq

namespace Span

def nanosPerSecond : Int := 1000000000

def ofSeconds (s : Int) : Span := ⟨s * nanosPerSecond⟩

def ofMillis (ms : Int) : Span := ⟨ms * 1000000⟩

/-- Whole seconds, rounded toward zero. -/
def seconds (s : Span) : Int := s.nanos.tdiv nanosPerSecond

def isZero (s : Span) : Bool := s.nanos == 0

/-- Parts of a second are left out. -/
def isoText (s : Span) : String :=
  if s.seconds.tmod 60 = 0 then
    String.ofList ('P' :: 'T' :: (Text.intDigits (s.seconds.tdiv 60) ++ ['M']))
  else String.ofList ('P' :: 'T' :: (Text.intDigits s.seconds ++ ['S']))

/-- An amount with its unit; nothing for none. -/
def unitText (amount : Nat) (unit : List Char) : List Char :=
  if amount == 0 then [] else Text.digits amount ++ unit

/-- Every unit that occurs, the largest first, behind one sign. -/
def unitsText (s : Span) : String :=
  let n := s.nanos.natAbs
  let whole := n / 1000000000
  let part := n % 1000000000
  let units :=
    unitText (whole / 86400) ['d'] ++ unitText (whole / 3600 % 24) ['h'] ++
      unitText (whole / 60 % 60) ['m'] ++ unitText (whole % 60) ['s'] ++
      unitText (part / 1000000) ['m', 's'] ++ unitText (part / 1000 % 1000) ['µ', 's'] ++
      unitText (part % 1000) ['n', 's']
  String.ofList (if n == 0 then ['0', 's'] else if s.nanos < 0 then '-' :: units else units)

end Span

end Compliance
