import Compliance.Binary64
import Compliance.Keyed

/-!
# Compliance.Json

JSON documents.

* `Json.Number`   — an integer of sixty-four bits, signed or unsigned, or a binary fraction.
* `Json`          — documents; the fields of a record are in ascending order of their keys.
* `Json.ofFields` — a record from fields in any order.
* `Json.depth`    — how deep lists and records nest.
-/

namespace Compliance

inductive Json.Number where
  /-- An integer that fits sixty-four bits, signed or unsigned. -/
  | int (z : Int)
  | real (x : Binary64)
  deriving DecidableEq

inductive Json where
  | null
  | bool (b : Bool)
  | number (n : Json.Number)
  | text (s : String)
  | list (items : List Json)
  | record (fields : List (String × Json))
  deriving BEq

namespace Json

def ofInt (z : Int) : Json := .number (.int z)

def ofNat (n : Nat) : Json := .number (.int n)

/-- The record with the given fields; the last of equal keys counts. -/
def ofFields (fields : List (String × Json)) : Json := .record (Keyed.ofList fields)

/-- A record of the fields that are present. -/
def ofPresent (fields : List (String × Option Json)) : Json :=
  ofFields (fields.filterMap fun (k, v) => v.map fun v => (k, v))

def ofOption : Option Json → Json
  | none => .null
  | some j => j

mutual

/-- How deep lists and records nest in a document. -/
def depth : Json → Nat
  | .list items => listDepth items + 1
  | .record fields => fieldsDepth fields + 1
  | _ => 0

def listDepth : List Json → Nat
  | [] => 0
  | j :: js => Nat.max j.depth (listDepth js)

def fieldsDepth : List (String × Json) → Nat
  | [] => 0
  | (_, j) :: fields => Nat.max j.depth (fieldsDepth fields)

end

/-- What a record holds under a key. -/
def field? (key : String) : Json → Option Json
  | .record fields => Keyed.find? key fields
  | _ => none

end Json

end Compliance
