import Compliance.Decimal.Reading
import Compliance.Pattern.Compile
import Compliance.Rule
import Compliance.Value

/-!
# Compliance.Failure

Why a test could not be carried out.

* `Failure`         — the causes.
* `Failure.message` — the wording of a cause.
-/

namespace Compliance

/-- What left the range of the instants and spans. -/
inductive Overflow where
  | span (amount : Int) (unit : SpanUnit)
  /-- The nanoseconds of a number of milliseconds are out of reach. -/
  | milliseconds (ms : Decimal)
  /-- A number of milliseconds since 1970 leaves the calendar. -/
  | moment (ms : Decimal)
  | sum (t : Instant) (s : Span)

def Overflow.message : Overflow → String
  | .span amount unit =>
    "duration " ++ String.ofList (Text.intDigits amount) ++ " " ++ unit.keyword ++
      " is out of range"
  | .milliseconds ms => "epoch value " ++ ms.text ++ " out of range"
  | .moment ms => "epoch value " ++ ms.text ++ ": timestamp was not in range"
  | .sum t s => t.display ++ " plus " ++ s.unitsText ++ " is out of range"

inductive Failure where
  | unknownFunction (name : String)
  /-- A function has no value at the instant of the evaluation. -/
  | noValue (name : String)
  | invalidPattern (shown : String) (cause : Pattern.Error)
  | incomparable (left right : Value)
  | notAnInstant (v : Value)
  | notASpan (v : Value)
  | overflow (cause : Overflow)
  /-- A number of the data that no decimal holds, as it is written. -/
  | numberOutOfRange (text : String) (cause : Decimal.ReadError)
  /-- Data that is no record. -/
  | notARecord (data : Value)

namespace Failure

/-- A value as it is shown where values cannot be ordered. -/
def describe : Value → String
  | .text s => "Text '" ++ s ++ "'"
  | .list _ => "List"
  | .record _ => "Record"
  | v => v.typeName ++ " " ++ v.stringify

/-- A value as it is shown where an instant is expected. -/
def shown : Value → String
  | .text s => "'" ++ s ++ "'"
  | v => v.typeName

def message : Failure → String
  | .unknownFunction name => "unknown function: " ++ name
  | .noValue name => "function without a value: " ++ name
  | .invalidPattern shown cause => "invalid pattern '" ++ shown ++ "': " ++ cause.message
  | .incomparable left right => "cannot order " ++ describe left ++ " against " ++ describe right
  | .notAnInstant v => shown v ++ " is not an instant"
  | .notASpan v => v.typeName ++ " is not a duration"
  | .overflow cause => "arithmetic overflow: " ++ cause.message
  | .numberOutOfRange text cause =>
    "invalid context: number " ++ text ++ " is out of range: " ++ cause.message
  | .notARecord data =>
    "invalid context: context must be a JSON object, got " ++ data.typeName

end Failure

end Compliance
