import Compliance.Failure
import Compliance.Text.Blank

/-!
# Compliance.Value.Coercion

What values of one kind count as in another kind.

* `Value.number?`      — numbers, and texts that write one.
* `Value.looseNumber?` — the same, and truth values as one and zero.
* `Value.toInstant`    — instants, texts that write one, and milliseconds since 1970.
* `Value.toSpan`       — spans.
-/

namespace Compliance.Value

/-- The number a text writes, with blanks around it. -/
def numberOfText? (s : String) : Option Decimal :=
  let cs := Text.trim s.toList
  if cs.isEmpty then none else (Decimal.ofText? cs).toOption

/-- The number a value counts as where values are ordered. -/
def number? : Value → Option Decimal
  | .number d => some d
  | .text s => numberOfText? s
  | _ => none

/-- The number a truth value counts as. -/
def numberOfBool (b : Bool) : Decimal := if b then Decimal.one else Decimal.zero

/-- The number a value counts as where values are equated. -/
def looseNumber? : Value → Option Decimal
  | .bool b => some (numberOfBool b)
  | v => v.number?

/-- The truth value a text writes, in any case and with blanks around it. -/
def boolOfText? (s : String) : Option Bool :=
  match String.ofList ((Text.trim s.toList).map Char.toLower) with
  | "true" => some true
  | "false" => some false
  | _ => none

/-- The instant a number of milliseconds after 1970-01-01T00:00:00Z, told in UTC; parts of a
nanosecond are cut. -/
def instantOfMillis (ms : Decimal) : Except Failure Instant :=
  match (ms.times? .million).map Decimal.truncate with
  | none => .error (.overflow (.milliseconds ms))
  | some nanos =>
    match Instant.ofUnixNanos? nanos with
    | none => .error (.overflow (.moment ms))
    | some t => .ok t

/-- The instant a value stands for; there is none for missing data. -/
def toInstant : Value → Except Failure (Option Instant)
  | .null => .ok none
  | .instant t => .ok (some t)
  | .text s =>
    match Instant.ofText? (Text.trim s.toList) with
    | some t => .ok (some t)
    | none => .error (.notAnInstant (.text s))
  | .number ms => (instantOfMillis ms).map some
  | v => .error (.notAnInstant v)

/-- The instant a value stands for, if there is one. -/
def instant? (v : Value) : Option Instant :=
  match v.toInstant with
  | .ok t => t
  | .error _ => none

def toSpan : Value → Except Failure Span
  | .span s => .ok s
  | v => .error (.notASpan v)

end Compliance.Value
