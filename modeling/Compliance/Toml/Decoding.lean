import Compliance.Text.Quoted
import Compliance.Toml.Fault

/-!
# Compliance.Toml.Decoding

What the items of a document stand for.

* `Item.describe` — an item in words, for a refusal.
* `Item.text?`    — the text that an item is.
* `Item.members?` — the members of a list or of several tables.
* `Shape`         — a record: its name and its fields.
* `Shape.read`    — reads the fields of a record, one after the other.
* `Choice.read`   — reads a choice between names.

Every reader gets the place to show where its item has none of its own.
-/

namespace Compliance.Toml

/-- A number in plain notation, with at least one place. -/
def withPoint (x : Binary64) : List Char :=
  let text := x.writtenOut
  if text.contains '.' then text else text ++ ['.', '0']

def Scalar.describe : Scalar → String
  | .text s => "string " ++ Text.quoted s
  | .int z => "integer `" ++ String.ofList (Text.intDigits z) ++ "`"
  | .real x => "floating point `" ++ String.ofList (withPoint x) ++ "`"
  | .infinite negative => "floating point `" ++ (if negative then "-inf" else "inf") ++ "`"
  | .notANumber => "floating point `NaN`"
  | .bool b => "boolean `" ++ (if b then "true" else "false") ++ "`"
  | .time _ => "map"

namespace Item

/-- An item in words; tables are maps, and so are times. -/
def describe : Item → String
  | .scalar _ v => v.describe
  | .list _ _ => "sequence"
  | .table _ => "map"
  | .tables _ => "sequence"

/-- The refusal of an item that is not of the expected type. -/
def wrongType {α : Type} (expected : String) (place : Place) (item : Item) : Except Error α :=
  .error ⟨item.place?.getD place, .because (.wrongType item.describe expected)⟩

def text? (place : Place) : Item → Except Error String
  | .scalar _ (.text s) => .ok s
  | item => item.wrongType "a string" place

/-- The members of a list or of several tables. -/
def members? (place : Place) : Item → Except Error (List Item)
  | .list _ items => .ok items
  | .tables members => .ok (members.map .table)
  | item => item.wrongType "a sequence" place

end Item

/-! ## Records -/

/-- A record: its name, and the names of its fields in the order of a list that stands for it. -/
structure Shape where
  name : String
  fields : List String

namespace Shape

/-- The record in words, with the number of its fields. -/
def withLength (s : Shape) : String :=
  let n := s.fields.length
  let noun := if n == 1 then " element" else " elements"
  s.name ++ " with " ++ String.ofList (Text.digits n) ++ noun

variable {σ : Type}

/-- Reads the fields of a table, in the order of the table. -/
def readEntries (s : Shape) (field : String → Place → Item → σ → Except Error σ) :
    List (Key × Item) → σ → Except Error σ
  | [], acc => .ok acc
  | (key, item) :: rest, acc =>
    if s.fields.contains key.text then do
      let acc ← field key.text key.place item acc
      readEntries s field rest acc
    else .error ⟨key.place, .because (.unknownField key.text s.fields)⟩

/-- Reads the fields of a record that is written as a list of what they hold. -/
def readMembers (s : Shape) (field : String → Place → Item → σ → Except Error σ) (place : Place)
    (count : Nat) : List String → List Item → σ → Except Error σ
  | [], _, acc => .ok acc
  | _ :: _, [], _ => .error ⟨place, .because (.tooShort count s.withLength)⟩
  | name :: names, item :: items, acc => do
    let acc ← field name place item acc
    readMembers s field place (count + 1) names items acc

/-- The name under which a time is taken for a table. -/
def timeField : String := "$__toml_private_datetime"

/-- Reads the fields of a record. `field` takes in what one of them holds. -/
def read (s : Shape) (field : String → Place → Item → σ → Except Error σ) (start : σ)
    (place : Place) (item : Item) : Except Error σ :=
  let own := item.place?.getD place
  match item with
  | .table t => readEntries s field t.entries start
  | .list _ items => readMembers s field own 0 s.fields items start
  | .tables members => readMembers s field own 0 s.fields (members.map .table) start
  | .scalar _ (.time _) => .error ⟨own, .because (.unknownField timeField s.fields)⟩
  | item => item.wrongType s.name place

end Shape

/-! ## Choices -/

namespace Choice

/-- One of several names. -/
def ofName {α : Type} (choices : List (String × α)) (place : Place) (name : String) :
    Except Error α :=
  match choices.find? fun c => c.1 == name with
  | some c => .ok c.2
  | none => .error ⟨place, .because (.unknownChoice name (choices.map (·.1)))⟩

/-- What stands behind the name of a choice in a table: nothing. -/
def readEmpty (place : Place) (item : Item) : Except Error Unit :=
  let refuse (c : Cause) : Except Error Unit := .error ⟨item.place?.getD place, .because c⟩
  match item with
  | .table t => if t.entries.isEmpty then .ok () else refuse .choiceWithItems
  | .list _ items => if items.isEmpty then .ok () else refuse .choiceWithItems
  | .tables members => if members.isEmpty then .ok () else refuse .choiceWithTables
  | .scalar _ v => refuse (.choiceWithValue v.kind)

/-- Reads a choice: a name, or a table with the name as its only key. -/
def read {α : Type} (choices : List (String × α)) (place : Place) (item : Item) :
    Except Error α :=
  let own := item.place?.getD place
  match item with
  | .scalar _ (.text s) => ofName choices own s
  | .table t =>
    match t.entries with
    | [] => .error ⟨own, .because .emptyChoice⟩
    | [(key, inner)] => do
      let a ← ofName choices key.place key.text
      readEmpty own inner
      .ok a
    | _ => .error ⟨own, .because .manyChoices⟩
  | _ => .error ⟨own, .because .noChoice⟩

end Choice

end Compliance.Toml
