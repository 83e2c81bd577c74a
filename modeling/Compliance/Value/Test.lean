import Compliance.Pattern.Compile
import Compliance.Value.Order

/-!
# Compliance.Value.Test

The tests that conditions and consequences apply to values.

* `Value.compare`      — the comparisons.
* `Value.like`         — texts with wildcards.
* `Value.contains`     — parts of texts and items of lists.
* `Value.matching`     — regular expressions.
* `Value.before`, `Value.after`, `Value.within`, `Value.expiresAfter` — the tests on time.
-/

namespace Compliance.Value

/-! ## Texts -/

/-- The expression that one character of a text with wildcards stands for: `%` is any run of
characters, `_` is any one, the others are themselves. -/
def wildcard (c : Char) : List Char :=
  if c == '%' then ['.', '*'] else if c == '_' then ['.'] else Pattern.escaped c

/-- The expression that a text with wildcards stands for. The dot means line breaks, too, and the
whole text has to match. -/
def wildcards (text : List Char) : List Char :=
  ['(', '?', 's', ')', '^'] ++ text.flatMap wildcard ++ ['$']

/-- Does the text of a value have the form that a pattern with wildcards describes? -/
def like (v pattern : Value) : Except Failure Bool :=
  if v.isNull || pattern.isNull then .ok false
  else
    match Pattern.ofText? (wildcards pattern.stringify.toList) with
    | .error e => .error (.invalidPattern pattern.stringify e)
    | .ok p => .ok (p.occursIn v.stringify.toList)

/-- Does the regular expression a value writes match anywhere in the text of another value? -/
def matching (v pattern : Value) : Except Failure Bool :=
  if v.isNull || pattern.isNull then .ok false
  else
    match Pattern.ofText? pattern.stringify.toList with
    | .error e => .error (.invalidPattern pattern.stringify e)
    | .ok p => .ok (p.occursIn v.stringify.toList)

/-- Does a text occur in another one? -/
def occursIn (part : List Char) : List Char → Bool
  | [] => part.isEmpty
  | c :: cs => part.isPrefixOf (c :: cs) || occursIn part cs

/-- Does a list have an equal item, or the text of a value the other one's text as a part? -/
def contains (v part : Value) : Bool :=
  match v, part with
  | .null, _ => false
  | _, .null => false
  | .list items, w => items.any fun item => looseEq item w
  | v, w => occursIn w.stringify.toList v.stringify.toList

/-! ## Comparisons -/

/-- Does the order of two values satisfy a test? Missing data satisfies none. -/
def ordered (v w : Value) (test : Ordering → Bool) : Except Failure Bool :=
  (order v w).map fun o => o.any test

def compare (v : Value) (op : Comparison) (w : Value) : Except Failure Bool :=
  match op with
  | .equal => .ok (looseEq v w)
  | .notEqual => .ok (!looseEq v w)
  | .greater => ordered v w (· == .gt)
  | .greaterEqual => ordered v w (· != .lt)
  | .less => ordered v w (· == .lt)
  | .lessEqual => ordered v w (· != .gt)
  | .like => like v w

def textTest (v : Value) (op : TextTest) (pattern : Value) : Except Failure Bool :=
  match op with
  | .contains => .ok (contains v pattern)
  | .matching => matching v pattern

/-! ## Time -/

/-- Do the instants of two values satisfy a test? Missing data satisfies none. -/
def orderedInTime (v w : Value) (test : Ordering → Bool) : Except Failure Bool :=
  match v.toInstant with
  | .error e => .error e
  | .ok t =>
    match w.toInstant with
    | .error e => .error e
    | .ok u =>
      .ok (match t, u with
        | some t, some u => test (t.order u)
        | _, _ => false)

def before (v reference : Value) : Except Failure Bool := orderedInTime v reference (· == .lt)

def after (v reference : Value) : Except Failure Bool := orderedInTime v reference (· == .gt)

/-- Has at most the given span passed since the instant? Instants to come are within every span that
is not negative. -/
def within (v window : Value) (now : Instant) : Except Failure Bool :=
  match window.toSpan with
  | .error e => .error e
  | .ok w =>
    match v.toInstant with
    | .error e => .error e
    | .ok none => .ok false
    | .ok (some t) => .ok ((now.since t).nanos ≤ w.nanos)

/-- Is the end of the span that begins at the instant still to come? -/
def expiresAfter (v window : Value) (now : Instant) : Except Failure Bool :=
  match window.toSpan with
  | .error e => .error e
  | .ok w =>
    match v.toInstant with
    | .error e => .error e
    | .ok none => .ok false
    | .ok (some t) =>
      match t.shift? w with
      | none => .error (.overflow (.sum t w))
      | some deadline => .ok (now.order deadline == .lt)

def timeTest (v : Value) (op : TimeTest) (reference : Value) (now : Instant) :
    Except Failure Bool :=
  match op with
  | .before => before v reference
  | .after => after v reference
  | .within => within v reference now
  | .expires => expiresAfter v reference now

end Compliance.Value
