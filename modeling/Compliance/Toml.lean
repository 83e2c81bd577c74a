import Compliance.Binary64

/-!
# Compliance.Toml

TOML documents: tables of keys in the order in which they were written, each with the place where
it stands in the text.

* `Toml.Scalar` — texts, numbers, truth values and times.
* `Toml.Item`   — what a key can hold.
* `Toml.Table`  — keys with what they hold.
-/

namespace Compliance.Toml

/-- The characters of a text from `start` up to `stop`, counted from zero. -/
structure Place where
  start : Nat
  stop : Nat
  deriving DecidableEq, Repr

structure Key where
  text : String
  place : Place
  deriving DecidableEq, Repr

inductive Scalar where
  | text (s : String)
  /-- An integer of sixty-four bits. -/
  | int (z : Int)
  | real (x : Binary64)
  | infinite (negative : Bool)
  | notANumber
  | bool (b : Bool)
  /-- A date, a time or both, as it is written. -/
  | time (text : String)
  deriving DecidableEq

/-- How a table came about. -/
inductive Form where
  /-- Between braces. -/
  | inline
  /-- By a header of its own. -/
  | headed
  /-- As a step on the way to a header. -/
  | implied
  /-- By a dotted key. -/
  | dotted
  deriving DecidableEq, Repr

/-- Keys and what they hold, in the order of the text. Tables that no stretch of the text stands
for have no place. -/
structure TableOf (α : Type) where
  form : Form
  place : Option Place
  entries : List (Key × α)

inductive Item where
  | scalar (place : Place) (value : Scalar)
  | list (place : Place) (items : List Item)
  | table (t : TableOf Item)
  /-- The tables under headers in double brackets. -/
  | tables (members : List (TableOf Item))

abbrev Table := TableOf Item

/-- Tables that were not written as such may be extended by dotted keys. -/
def Form.isUnwritten : Form → Bool
  | .inline => false
  | .headed => false
  | .implied => true
  | .dotted => true

def Scalar.kind : Scalar → String
  | .text _ => "string"
  | .int _ => "integer"
  | .real _ => "float"
  | .infinite _ => "float"
  | .notANumber => "float"
  | .bool _ => "boolean"
  | .time _ => "datetime"

namespace Item

/-- The name of the kind of an item. -/
def kind : Item → String
  | .scalar _ v => v.kind
  | .list _ _ => "array"
  | .table t => if t.form == .inline then "inline table" else "table"
  | .tables _ => "array of tables"

/-- The place of an item; that of several tables reaches from the first to the last. -/
def place? : Item → Option Place
  | .scalar place _ => some place
  | .list place _ => some place
  | .table t => t.place
  | .tables members =>
    match members.head?.bind (·.place), members.getLast?.bind (·.place) with
    | some first, some last => some ⟨first.start, last.stop⟩
    | _, _ => none

end Item

namespace TableOf

variable {α : Type}

def find? (key : String) (t : TableOf α) : Option α :=
  (t.entries.find? fun (k, _) => k.text == key).map (·.2)

def erase (key : String) (t : TableOf α) : TableOf α :=
  { t with entries := t.entries.filter fun (k, _) => k.text != key }

/-- Sets a key: in its old position if the table has it, else behind all others. -/
def put (key : Key) (item : α) (t : TableOf α) : TableOf α :=
  let replaced := t.entries.map fun (k, old) => (k, if k.text == key.text then item else old)
  { t with entries := if (t.find? key.text).isSome then replaced else t.entries ++ [(key, item)] }

end TableOf

end Compliance.Toml
