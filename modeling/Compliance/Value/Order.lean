import Compliance.Value.Coercion

/-!
# Compliance.Value.Order

Equality and order of values.

* `Value.looseEq`  — equality across kinds; it never fails.
* `Value.order`    — the order of numbers, instants and spans.
* `Value.isMember` — is a value among others?
* `Value.between`  — does a value lie between two others?
-/

namespace Compliance.Value

/-! ## Equality -/

/-- Equal texts, or texts of equal numbers. -/
def sameText (s t : String) : Bool :=
  s == t ||
    match numberOfText? s, numberOfText? t with
    | some m, some n => m == n
    | _, _ => false

/-- A text equals a truth value if it writes it, or writes its number. -/
def sameAsBool (b : Bool) (s : String) : Bool :=
  boolOfText? s == some b ||
    match numberOfText? s with
    | some n => n == numberOfBool b
    | none => false

/-- A value equals an instant if it stands for the same moment. -/
def sameAsInstant (t : Instant) (v : Value) : Bool :=
  match v.instant? with
  | some u => u == t
  | none => false

/-- Equality of two values that are not both lists or both records. -/
def samePlain : Value → Value → Bool
  | .null, .null => true
  | .null, _ => false
  | _, .null => false
  | .text s, .text t => sameText s t
  | .bool a, .bool b => a == b
  | .bool b, .text s => sameAsBool b s
  | .text s, .bool b => sameAsBool b s
  | .instant t, v => sameAsInstant t v
  | v, .instant t => sameAsInstant t v
  | .span s, .span t => s == t
  | v, w =>
    match v.looseNumber?, w.looseNumber? with
    | some m, some n => m == n
    | _, _ => false

mutual

/-- Equality across kinds: a number equals its text, true equals one and the text `true`, an instant
equals its text and its milliseconds. Missing data equals missing data only. -/
def looseEq : Value → Value → Bool
  | .list items, .list others => looseEqAll items others
  | .record fields, .record others =>
    fields.length == others.length && looseEqFields fields others
  | v, w => samePlain v w

/-- Equality item by item. -/
def looseEqAll : List Value → List Value → Bool
  | [], [] => true
  | v :: rest, w :: others => looseEq v w && looseEqAll rest others
  | _, _ => false

/-- Does a record hold an equal value under each of the keys? -/
def looseEqFields : List (String × Value) → List (String × Value) → Bool
  | [], _ => true
  | (key, v) :: rest, others =>
    (match Keyed.find? key others with
      | some w => looseEq v w
      | none => false) && looseEqFields rest others

end

/-! ## Order -/

/-- Are values to be ordered as instants? -/
def isTemporal : Value → Value → Bool
  | .instant _, _ => true
  | _, .instant _ => true
  | .text _, .text _ => true
  | _, _ => false

/-- The order of two values as instants, where both stand for one. -/
def instantOrder? (v w : Value) : Option Ordering :=
  if isTemporal v w then
    match v.instant?, w.instant? with
    | some t, some u => some (t.order u)
    | _, _ => none
  else none

/-- The order of two values as numbers, where both are numbers or write one. -/
def numberOrder? (v w : Value) : Option Ordering :=
  match v.number?, w.number? with
  | some m, some n => some (m.order n)
  | _, _ => none

/-- The order of two spans. -/
def spanOrder? : Value → Value → Option Ordering
  | .span s, .span t => some (compare s.nanos t.nanos)
  | _, _ => none

/-- The order of two values: as numbers, as instants or as spans. Missing data has no place in the
order, which is no failure. -/
def order (v w : Value) : Except Failure (Option Ordering) :=
  if v.isNull || w.isNull then .ok none
  else
    match (numberOrder? v w).or ((instantOrder? v w).or (spanOrder? v w)) with
    | some o => .ok (some o)
    | none => .error (.incomparable v w)

/-! ## Membership and ranges -/

/-- Is a value among others? A list among them stands for itself and for its items. -/
def isMember (v : Value) (candidates : List Value) : Bool :=
  candidates.any fun
    | .list items => looseEq v (.list items) || items.any (looseEq v)
    | w => looseEq v w

/-- Does a value lie between two bounds, or on one of them? -/
def between (v lower upper : Value) : Except Failure Bool :=
  match order v lower with
  | .error e => .error e
  | .ok fromBelow =>
    match order v upper with
    | .error e => .error e
    | .ok fromAbove =>
      .ok (fromBelow.any (· != .lt) && fromAbove.any (· != .gt))

end Compliance.Value
