import Compliance.Decimal.Reading
import Compliance.Instant.Rfc3339
import Compliance.Json
import Compliance.Rule

/-!
# Compliance.Rule.Tree

Rules as JSON documents. An operand carries its kind under `type`, a condition or consequence
under `kind`; a rule has its condition and, beside it, either a consequence or an action.

* `Rule.document` — the document of a rule, where its instants can be written.
* `Rule.toJson`   — what is shown of a rule: that document, or the complaint about an instant.
* `Rule.ofJson?`  — reads a rule; fields that are not asked for are ignored. Where both bodies are
  present the action counts.
-/

namespace Compliance

/-- A record that names its kind under `key`. -/
def Json.tagged (key kind : String) (fields : List (String × Json)) : Json :=
  Json.ofFields ((key, .text kind) :: fields)

def Json.asText? : Json → Option String
  | .text s => some s
  | _ => none

def Json.asBool? : Json → Option Bool
  | .bool b => some b
  | _ => none

/-- A field of a record that holds a text. -/
def Json.textField? (key : String) (j : Json) : Option String := (j.field? key).bind Json.asText?

/-! ## Operands -/

/-- The document of an operand. There is none for an instant that cannot be written. -/
def Operand.document : Operand → Except Instant.Component Json
  | .variable path => .ok (.tagged "type" "variable" [("path", .text path)])
  | .text s => .ok (.tagged "type" "string_literal" [("value", .text s)])
  | .number d => .ok (.tagged "type" "number_literal" [("value", .text d.text)])
  | .bool b => .ok (.tagged "type" "boolean_literal" [("value", .bool b)])
  | .instant t => t.written.map fun s => .tagged "type" "datetime_literal" [("value", .text s)]
  | .span amount unit =>
    .ok (.tagged "type" "duration_literal"
      [("amount", .ofInt amount), ("unit", .text unit.keyword)])
  | .null => .ok (.tagged "type" "null_literal" [])
  | .call name => .ok (.tagged "type" "function_call" [("name", .text name)])

/-- What is shown of a document: where there is none, the complaint about an instant. -/
def Json.orComplaint : Except Instant.Component Json → Json
  | .ok j => j
  | .error part => .ofFields [("error", .text part.message)]

def Operand.toJson (v : Operand) : Json := .orComplaint v.document

/-- The unit with exactly this name. -/
def SpanUnit.ofName? (s : String) : Option SpanUnit :=
  [SpanUnit.minutes, .hours, .days].find? (·.keyword == s)

/-- A decimal from a text in either notation, an integer, or a binary fraction written out. -/
def Decimal.ofJson? : Json → Option Decimal
  | .text s => (Decimal.ofText? s.toList).toOption
  | .number (.int z) => Decimal.ofInt? z
  | .number (.real x) => (Decimal.ofPlain? x.writtenOut).toOption
  | _ => none

/-- An integer of sixty-four bits. -/
def Json.asInt64? : Json → Option Int
  | .number (.int z) => if Text.fitsInt64 z then some z else none
  | _ => none

def Operand.ofJson? (j : Json) : Option Operand := do
  match ← j.textField? "type" with
  | "variable" => return .variable (← j.textField? "path")
  | "string_literal" => return .text (← j.textField? "value")
  | "number_literal" => return .number (← (← j.field? "value") |> Decimal.ofJson?)
  | "boolean_literal" => return .bool (← (← j.field? "value") |> Json.asBool?)
  | "datetime_literal" => return .instant (← Instant.ofRfc3339? (← j.textField? "value").toList)
  | "duration_literal" =>
    return .span (← (← j.field? "amount") |> Json.asInt64?)
      (← SpanUnit.ofName? (← j.textField? "unit"))
  | "null_literal" => return .null
  | "function_call" => return .call (← j.textField? "name")
  | _ => none

/-- An operand in a field of a record. -/
def Operand.ofField? (key : String) (j : Json) : Option Operand :=
  (j.field? key).bind Operand.ofJson?

def Operand.listDocument (values : List Operand) : Except Instant.Component Json :=
  (values.mapM Operand.document).map .list

/-- A list of operands in a field of a record. -/
def Operand.listOfField? (key : String) (j : Json) : Option (List Operand) := do
  match ← j.field? key with
  | .list items => items.mapM Operand.ofJson?
  | _ => none

/-! ## Operators -/

def Comparison.ofName? (s : String) : Option Comparison :=
  [Comparison.equal, .notEqual, .greater, .greaterEqual, .less, .lessEqual, .like].find?
    (·.keyword == s)

def TextTest.ofName? (s : String) : Option TextTest :=
  [TextTest.contains, .matching].find? (·.keyword == s)

def TimeTest.ofName? (s : String) : Option TimeTest :=
  [TimeTest.before, .after, .within, .expires].find? (·.keyword == s)

def Connective.ofName? (s : String) : Option Connective :=
  [Connective.and, .or].find? (·.keyword == s)

def Demand.ofName? (s : String) : Option Demand :=
  [Demand.required, .recommended].find? (·.keyword == s)

/-! ## Conditions -/

def Condition.document : Condition → Except Instant.Component Json
  | .comparison left op right => do
    return .tagged "kind" "simple"
      [("left", ← left.document), ("operator", .text op.keyword), ("right", ← right.document)]
  | .membership value values => do
    return .tagged "kind" "list"
      [("variable", ← value.document), ("values", ← Operand.listDocument values)]
  | .textTest value op pattern => do
    return .tagged "kind" "pattern"
      [("variable", ← value.document), ("operator", .text op.keyword),
        ("pattern", ← pattern.document)]
  | .timeTest value op reference => do
    return .tagged "kind" "temporal"
      [("variable", ← value.document), ("operator", .text op.keyword),
        ("value", ← reference.document)]
  | .logical left op right => do
    return .tagged "kind" "compound"
      [("left", ← left.document), ("operator", .text op.keyword), ("right", ← right.document)]
  | .negation inner => do return .tagged "kind" "not" [("inner", ← inner.document)]
  | .truthiness value => do
    return .tagged "kind" "variable_truthy" [("variable", ← value.document)]

/-- Reads a condition in a document that nests at most `depth` deep. -/
def Condition.ofJsonWithin? : Nat → Json → Option Condition
  | 0, _ => none
  | depth + 1, j => do
    let child (key : String) : Option Condition :=
      (j.field? key).bind (ofJsonWithin? depth)
    match ← j.textField? "kind" with
    | "simple" =>
      return .comparison (← Operand.ofField? "left" j)
        (← Comparison.ofName? (← j.textField? "operator")) (← Operand.ofField? "right" j)
    | "list" =>
      return .membership (← Operand.ofField? "variable" j) (← Operand.listOfField? "values" j)
    | "pattern" =>
      return .textTest (← Operand.ofField? "variable" j)
        (← TextTest.ofName? (← j.textField? "operator")) (← Operand.ofField? "pattern" j)
    | "temporal" =>
      return .timeTest (← Operand.ofField? "variable" j)
        (← TimeTest.ofName? (← j.textField? "operator")) (← Operand.ofField? "value" j)
    | "compound" =>
      return .logical (← child "left")
        (← Connective.ofName? (← j.textField? "operator")) (← child "right")
    | "not" => return .negation (← child "inner")
    | "variable_truthy" => return .truthiness (← Operand.ofField? "variable" j)
    | _ => none

/-! ## Consequences -/

/-- Connectives of consequences stand one level deeper, in an expression of their own. -/
def Consequence.expression (op : String) (fields : List (String × Json)) : Json :=
  .tagged "kind" "boolean_expression" [("expression", .tagged "op" op fields)]

def Consequence.document : Consequence → Except Instant.Component Json
  | .comparison left op right => do
    return .tagged "kind" "constraint"
      [("variable", ← left.document), ("operator", .text op.keyword), ("value", ← right.document)]
  | .membership value false values => do
    return .tagged "kind" "in_constraint"
      [("variable", ← value.document), ("values", ← Operand.listDocument values)]
  | .membership value true values => do
    return .tagged "kind" "not_in_constraint"
      [("variable", ← value.document), ("values", ← Operand.listDocument values)]
  | .range value lower upper => do
    return .tagged "kind" "between_constraint"
      [("variable", ← value.document), ("lower", ← lower.document), ("upper", ← upper.document)]
  | .presence value demand => do
    return .tagged "kind" "requirement"
      [("variable", ← value.document), ("keyword", .text demand.keyword)]
  | .logical left op right => do
    return expression op.keyword [("left", ← left.document), ("right", ← right.document)]
  | .negation inner => do return expression "NOT" [("inner", ← inner.document)]
  | .literal b => .ok (.tagged "kind" "boolean_literal" [("value", .bool b)])
  | .truthiness value => do
    return .tagged "kind" "variable_expression" [("variable", ← value.document)]

/-- Reads a consequence in a document that nests at most `depth` deep. -/
def Consequence.ofJsonWithin? : Nat → Json → Option Consequence
  | 0, _ => none
  | depth + 1, j => do
    match ← j.textField? "kind" with
    | "constraint" =>
      return .comparison (← Operand.ofField? "variable" j)
        (← Comparison.ofName? (← j.textField? "operator")) (← Operand.ofField? "value" j)
    | "in_constraint" =>
      return .membership (← Operand.ofField? "variable" j) false
        (← Operand.listOfField? "values" j)
    | "not_in_constraint" =>
      return .membership (← Operand.ofField? "variable" j) true
        (← Operand.listOfField? "values" j)
    | "between_constraint" =>
      return .range (← Operand.ofField? "variable" j) (← Operand.ofField? "lower" j)
        (← Operand.ofField? "upper" j)
    | "requirement" =>
      return .presence (← Operand.ofField? "variable" j)
        (← Demand.ofName? (← j.textField? "keyword"))
    | "boolean_expression" =>
      let e ← j.field? "expression"
      let child (key : String) : Option Consequence :=
        (e.field? key).bind (ofJsonWithin? depth)
      match ← e.textField? "op" with
      | "NOT" => return .negation (← child "inner")
      | op => return .logical (← child "left") (← Connective.ofName? op) (← child "right")
    | "boolean_literal" => return .literal (← (← j.field? "value") |> Json.asBool?)
    | "variable_expression" => return .truthiness (← Operand.ofField? "variable" j)
    | _ => none

/-! ## Rules -/

def Action.document (a : Action) : Except Instant.Component Json := do
  return .ofFields
    [("action_type", .text a.verb.keyword), ("variable", ← a.target.document),
      ("label", .text a.label)]

def Action.ofJson? (j : Json) : Option Action :=
  return ⟨← Verb.ofKeyword? (← j.textField? "action_type"), ← Operand.ofField? "variable" j,
    ← j.textField? "label"⟩

def Rule.Body.field : Rule.Body → Except Instant.Component (String × Json)
  | .consequence c => c.document.map ("consequence", ·)
  | .action a => a.document.map ("action", ·)

def Rule.document (r : Rule) : Except Instant.Component Json := do
  return .ofFields [("condition", ← r.condition.document), ← r.body.field]

def Rule.toJson (r : Rule) : Json := .orComplaint r.document

def Rule.Body.ofJson? (j : Json) : Option Rule.Body :=
  match j.field? "action", j.field? "consequence" with
  | some a, _ => (Action.ofJson? a).map .action
  | none, some c => (Consequence.ofJsonWithin? c.depth c).map .consequence
  | none, none => none

def Rule.ofJson? (j : Json) : Option Rule := do
  let c ← j.field? "condition"
  return ⟨← Condition.ofJsonWithin? c.depth c, ← Rule.Body.ofJson? j⟩

end Compliance
