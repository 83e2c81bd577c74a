import Compliance.Decimal
import Compliance.Instant
import Compliance.Span

/-!
# Compliance.Rule

Compliance rules: `WHEN condition THEN MUST consequence`, or an action in place of the
consequence.

* `Operand`      — what a test compares: paths into the data, literals, function calls.
* `Condition`    — when a rule applies.
* `Consequence`  — what it then demands.
* `Action`       — what it then records instead.
* `Rule`         — a condition and one of the two bodies.

`==` on these types compares numbers by value and instants by moment.
-/

namespace Compliance

/-! ## Operands -/

inductive SpanUnit where
  | minutes
  | hours
  | days
  deriving DecidableEq

namespace SpanUnit

/-- The unit that a keyword names; the singular forms count. -/
def ofKeyword? : String → Option SpanUnit
  | "MINUTES" => some .minutes
  | "MINUTE" => some .minutes
  | "HOURS" => some .hours
  | "HOUR" => some .hours
  | "DAYS" => some .days
  | "DAY" => some .days
  | _ => none

def keyword : SpanUnit → String
  | .minutes => "MINUTES"
  | .hours => "HOURS"
  | .days => "DAYS"

/-- The seconds of one unit. -/
def seconds : SpanUnit → Int
  | .minutes => 60
  | .hours => 3600
  | .days => 86400

/-- The span of `amount` units, where sixty-four bits hold its seconds. -/
def span? (unit : SpanUnit) (amount : Int) : Option Span :=
  if Text.fitsInt64 (amount * unit.seconds) then some (Span.ofSeconds (amount * unit.seconds))
  else none

end SpanUnit

inductive Operand where
  /-- A dotted path into the data. -/
  | variable (path : String)
  | text (s : String)
  | number (d : Decimal)
  | bool (b : Bool)
  | instant (t : Instant)
  | span (amount : Int) (unit : SpanUnit)
  | null
  /-- A function of the table that an evaluation brings along. -/
  | call (name : String)
  deriving DecidableEq

/-- Equality that sees values and moments, not how they are written. -/
def Operand.same : Operand → Operand → Bool
  | .variable p, .variable q => p == q
  | .text s, .text t => s == t
  | .number d, .number e => d == e
  | .bool a, .bool b => a == b
  | .instant t, .instant u => t == u
  | .span m u, .span n v => decide (m = n) && decide (u = v)
  | .null, .null => true
  | .call f, .call g => f == g
  | _, _ => false

instance : BEq Operand := ⟨Operand.same⟩

/-- The path of a variable. -/
def Operand.path? : Operand → Option String
  | .variable path => some path
  | _ => none

/-! ## Operators -/

inductive Comparison where
  | equal
  | notEqual
  | greater
  | greaterEqual
  | less
  | lessEqual
  | like
  deriving DecidableEq

def Comparison.keyword : Comparison → String
  | .equal => "="
  | .notEqual => "!="
  | .greater => ">"
  | .greaterEqual => ">="
  | .less => "<"
  | .lessEqual => "<="
  | .like => "LIKE"

inductive TextTest where
  | contains
  | matching
  deriving DecidableEq

def TextTest.keyword : TextTest → String
  | .contains => "CONTAINS"
  | .matching => "MATCHES"

inductive TimeTest where
  | before
  | after
  | within
  | expires
  deriving DecidableEq

def TimeTest.keyword : TimeTest → String
  | .before => "BEFORE"
  | .after => "AFTER"
  | .within => "WITHIN"
  | .expires => "EXPIRES"

inductive Connective where
  | and
  | or
  deriving DecidableEq

def Connective.keyword : Connective → String
  | .and => "AND"
  | .or => "OR"

/-- The truth of a connective. -/
def Connective.holds : Connective → Bool → Bool → Bool
  | .and, a, b => a && b
  | .or, a, b => a || b

/-! ## Conditions -/

inductive Condition where
  | comparison (left : Operand) (op : Comparison) (right : Operand)
  | membership (value : Operand) (values : List Operand)
  | textTest (value : Operand) (op : TextTest) (pattern : Operand)
  | timeTest (value : Operand) (op : TimeTest) (reference : Operand)
  | logical (left : Condition) (op : Connective) (right : Condition)
  | negation (inner : Condition)
  /-- A bare operand: is it truthy? -/
  | truthiness (value : Operand)
  deriving DecidableEq, BEq

/-! ## Consequences -/

/-- How strongly a value is asked for. -/
inductive Demand where
  | required
  | recommended
  deriving DecidableEq

/-- The name of a demand in evidence and trees. -/
def Demand.keyword : Demand → String
  | .required => "MUST"
  | .recommended => "SHOULD"

inductive Consequence where
  | comparison (left : Operand) (op : Comparison) (right : Operand)
  | membership (value : Operand) (negated : Bool) (values : List Operand)
  /-- Both bounds belong to the range. -/
  | range (value lower upper : Operand)
  /-- The value has to be there, whatever it is. -/
  | presence (value : Operand) (demand : Demand)
  | logical (left : Consequence) (op : Connective) (right : Consequence)
  | negation (inner : Consequence)
  | literal (b : Bool)
  | truthiness (value : Operand)
  deriving DecidableEq, BEq

/-! ## Rules -/

inductive Verb where
  | flag
  | block
  | notify
  | escalate
  | report
  deriving DecidableEq

namespace Verb

def ofKeyword? : String → Option Verb
  | "FLAG" => some .flag
  | "BLOCK" => some .block
  | "NOTIFY" => some .notify
  | "ESCALATE" => some .escalate
  | "REPORT" => some .report
  | _ => none

def keyword : Verb → String
  | .flag => "FLAG"
  | .block => "BLOCK"
  | .notify => "NOTIFY"
  | .escalate => "ESCALATE"
  | .report => "REPORT"

end Verb

/-- A note that is recorded whenever the condition of its rule holds. -/
structure Action where
  verb : Verb
  target : Operand
  label : String
  deriving DecidableEq, BEq

inductive Rule.Body where
  | consequence (c : Consequence)
  | action (a : Action)
  deriving DecidableEq, BEq

structure Rule where
  condition : Condition
  body : Rule.Body
  deriving DecidableEq, BEq

namespace Rule

def consequence? (r : Rule) : Option Consequence :=
  match r.body with
  | .consequence c => some c
  | .action _ => none

def action? (r : Rule) : Option Action :=
  match r.body with
  | .consequence _ => none
  | .action a => some a

end Rule

end Compliance
