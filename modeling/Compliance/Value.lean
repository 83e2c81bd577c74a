import Compliance.Decimal
import Compliance.Instant.Rfc3339
import Compliance.Json.Printing
import Compliance.Json.Reading

/-!
# Compliance.Value

The values that rules compute with.

* `Value`           — nothing, truth values, numbers, texts, instants, spans, lists, records.
* `Value.typeName`  — the name of a value's kind.
* `Value.isTruthy`  — does a value count as true where a test is expected?
* `Value.toJson`    — the document that shows a value in evidence.
* `Value.stringify` — the text of a value, for the tests on texts.
-/

namespace Compliance

/-- A value of the data, of a literal or of a function. The fields of a record are in the order of
their keys. -/
inductive Value where
  /-- Missing data. -/
  | null
  | bool (b : Bool)
  | number (d : Decimal)
  | text (s : String)
  | instant (t : Instant)
  | span (s : Span)
  | list (items : List Value)
  | record (fields : List (String × Value))

instance : Inhabited Value := ⟨.null⟩

namespace Value

def typeName : Value → String
  | .null => "Null"
  | .bool _ => "Bool"
  | .number _ => "Number"
  | .text _ => "Text"
  | .instant _ => "DateTime"
  | .span _ => "Duration"
  | .list _ => "List"
  | .record _ => "Record"

def isNull : Value → Bool
  | .null => true
  | _ => false

/-- Zero and whatever is empty or missing does not count as true. -/
def isTruthy : Value → Bool
  | .null => false
  | .bool b => b
  | .number d => !d.isZero
  | .text s => s != ""
  | .instant _ => true
  | .span s => !s.isZero
  | .list items => !items.isEmpty
  | .record fields => !fields.isEmpty

end Value

/-! ## Documents -/

/-- The document of a decimal: an integer where sixty-four bits hold it, otherwise the number that
its text is read as. -/
def Decimal.toJson (d : Decimal) : Json :=
  let n := d.normalize
  if n.scale == 0 && Text.fitsInt64 n.mantissa then .ofInt n.mantissa
  else
    match Json.Number.ofText? n.text with
    | some x => .number x
    | none => .text n.text

namespace Value

mutual

def toJson : Value → Json
  | .null => .null
  | .bool b => .bool b
  | .number d => d.toJson
  | .text s => .text s
  | .instant t => .text t.text
  | .span s => .text s.isoText
  | .list items => .list (itemsToJson items)
  | .record fields => .record (fieldsToJson fields)

def itemsToJson : List Value → List Json
  | [] => []
  | v :: rest => toJson v :: itemsToJson rest

def fieldsToJson : List (String × Value) → List (String × Json)
  | [] => []
  | (key, v) :: rest => (key, toJson v) :: fieldsToJson rest

end

/-! ## Texts -/

mutual

/-- The text of a value. Items of a list stand between commas, a record is shown as a document. -/
def stringify : Value → String
  | .null => "null"
  | .bool true => "true"
  | .bool false => "false"
  | .number d => d.normalize.text
  | .text s => s
  | .instant t => t.text
  | .span s => s.isoText
  | .list items => String.intercalate "," (stringifyAll items)
  | .record fields => (Json.record (fieldsToJson fields)).compact

def stringifyAll : List Value → List String
  | [] => []
  | v :: rest => stringify v :: stringifyAll rest

end

end Value

end Compliance
