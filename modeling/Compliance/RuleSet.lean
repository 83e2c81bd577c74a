import Compliance.Toml.Decoding
import Compliance.Toml.Reading

/-!
# Compliance.RuleSet

Files with several rules.

* `RuleSet.Entry`  — the text of a rule, and the name it goes by.
* `RuleSet.ofText?` — reads the entries of a file, in its order.
-/

namespace Compliance

namespace RuleSet

open Toml (Place Item Error Shape)

/-- The text of a rule, and the name it goes by. Names may repeat, and texts may be no rules. -/
structure Entry where
  id : String
  text : String
  deriving DecidableEq, Repr

def entryShape : Shape := ⟨"struct RuleEntry", ["id", "text"]⟩

def shape : Shape := ⟨"struct RuleSet", ["rule"]⟩

/-- Takes in a field of an entry. -/
def readField (name : String) (place : Place) (item : Item)
    (fields : Option String × Option String) : Except Error (Option String × Option String) :=
  (item.text? place).map fun text =>
    if name == "id" then (some text, fields.2) else (fields.1, some text)

/-- Reads an entry; both fields have to be there. -/
def readEntry (place : Place) (item : Item) : Except Error Entry := do
  let own := item.place?.getD place
  match ← entryShape.read readField (none, none) place item with
  | (some id, some text) => .ok ⟨id, text⟩
  | (none, _) => .error ⟨own, .because (.missingField "id")⟩
  | (some _, none) => .error ⟨own, .because (.missingField "text")⟩

def readRules (_ : String) (place : Place) (item : Item) (_ : List Entry) :
    Except Error (List Entry) := do
  let own := item.place?.getD place
  (← item.members? place).mapM (readEntry own)

/-- Reads the entries of a file, in its order. -/
def ofText? (text : List Char) : Except Error (List Entry) := do
  let root ← Toml.ofText? text
  shape.read readRules [] ⟨0, 0⟩ (.table root)

end RuleSet

end Compliance
