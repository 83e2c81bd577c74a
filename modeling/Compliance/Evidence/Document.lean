import Compliance.Evidence

/-!
# Compliance.Evidence.Document

Evidence as a document.

* `Evidence.document` — the document of a tree, where its instants can be written; what is missing
  has no field.
* `Evidence.toJson?`  — the same, without telling what cannot be written.
-/

namespace Compliance

def ActionRecord.toJson (a : ActionRecord) : Json :=
  .ofFields
    [("action_type", .text a.verb.keyword), ("target", .text a.target), ("label", .text a.label)]

/-- A record that begins with its kind. -/
def Details.record (kind : String) (fields : List (String × Json)) : Option Json :=
  some (.ofFields (("kind", .text kind) :: fields))

namespace Evidence

mutual

def document : Evidence → Except Instant.Component Json
  | .node result reason error details => do
    return .ofPresent
      [("result", some (.bool result)),
       ("reason", some (.text reason)),
       ("details", ← detailsDocument details),
       ("error", error.map fun e => .text e.message)]

def detailsDocument : Details → Except Instant.Component (Option Json)
  | .missing => .ok none
  | .comparison left op right =>
    .ok <| Details.record "comparison"
      [("left", left.toJson), ("operator", .text op.keyword), ("right", right.toJson)]
  | .membership value isNegated values =>
    .ok <| Details.record "membership"
      [("value", value.toJson), ("negated", .bool isNegated),
       ("values", .list (Value.itemsToJson values))]
  | .range value lower upper =>
    .ok <| Details.record "range"
      [("value", value.toJson), ("lower", lower.toJson), ("upper", upper.toJson)]
  | .textTest value op pattern =>
    .ok <| Details.record "pattern"
      [("value", value.toJson), ("operator", .text op.keyword), ("pattern", pattern.toJson)]
  | .timeTest value op reference now => do
    return Details.record "temporal"
      [("value", value.toJson), ("operator", .text op.keyword),
       ("reference", reference.toJson), ("now", .text (← now.written))]
  | .logical left op right => do
    return Details.record "logical"
      [("operator", .text op.keyword), ("left", ← document left), ("right", ← document right)]
  | .negation inner => do return Details.record "negation" [("inner", ← document inner)]
  | .truthiness operand value =>
    .ok <| Details.record "truthiness" [("operand", .text operand), ("value", value.toJson)]
  | .presence operand demand value =>
    .ok <| Details.record "requirement"
      [("variable", .text operand), ("keyword", .text demand.keyword), ("value", value.toJson)]
  | .literal b => .ok <| Details.record "literal" [("value", .bool b)]
  | .notMet condition => do return Details.record "rule" [("condition", ← document condition)]
  | .demanded condition consequence => do
    return Details.record "rule"
      [("condition", ← document condition), ("consequence", ← document consequence)]
  | .acted condition action => do
    return Details.record "rule" [("condition", ← document condition), ("action", action.toJson)]

end

def toJson? (e : Evidence) : Option Json := e.document.toOption

end Evidence

end Compliance
