import Compliance.Failure

/-!
# Compliance.Context

The data a rule is checked against, addressed by dotted paths.

* `Value.ofJson`    — the value of a document.
* `Context`         — named values.
* `Context.ofJson`  — the data of a document, which has to be a record.
* `Context.insert`  — sets a name.
* `Context.resolve` — the value at a path.
-/

namespace Compliance

/-! ## Documents as data -/

/-- The decimal of a number: an integer as it is, any other number as its shortest text is read. -/
def Decimal.ofJsonNumber : Json.Number → Except Failure Decimal
  | .int z =>
    match Decimal.ofInt? z with
    | some d => .ok d
    | none => .error (.numberOutOfRange (String.ofList (Text.intDigits z)) .tooManyDigits)
  | .real x =>
    match Decimal.ofText? x.text.toList with
    | .ok d => .ok d
    | .error e => .error (.numberOutOfRange x.text e)

namespace Value

mutual

/-- The value of a document. Texts stay texts, even those that look like instants. -/
def ofJson : Json → Except Failure Value
  | .null => .ok .null
  | .bool b => .ok (.bool b)
  | .number n => (Decimal.ofJsonNumber n).map .number
  | .text s => .ok (.text s)
  | .list items => (ofItems items).map .list
  | .record fields => (ofFields fields).map .record

def ofItems : List Json → Except Failure (List Value)
  | [] => .ok []
  | j :: rest =>
    match ofJson j with
    | .error e => .error e
    | .ok v => (ofItems rest).map (v :: ·)

def ofFields : List (String × Json) → Except Failure (List (String × Value))
  | [] => .ok []
  | (key, j) :: rest =>
    match ofJson j with
    | .error e => .error e
    | .ok v => (ofFields rest).map ((key, v) :: ·)

end

/-- What a value holds under a segment of a path: a field of a record or an item of a list. -/
def child? (segment : List Char) : Value → Option Value
  | .record fields => Keyed.find? (String.ofList segment) fields
  | .list items => (Text.natOfText? segment).bind fun i => items[i]?
  | _ => none

/-- The value that a path leads to. -/
def walk? : List (List Char) → Value → Option Value
  | [], v => some v
  | segment :: rest, v => (v.child? segment).bind (walk? rest)

end Value

/-- The parts of a text between occurrences of a character. -/
def Text.splitOn (separator : Char) : List Char → List (List Char)
  | [] => [[]]
  | c :: cs =>
    if c == separator then [] :: splitOn separator cs
    else
      match splitOn separator cs with
      | [] => [[c]]
      | part :: parts => (c :: part) :: parts

/-! ## Contexts -/

/-- Named values, in the order of their names. -/
structure Context where
  root : List (String × Value)

namespace Context

def empty : Context := ⟨[]⟩

/-- The data of a document. -/
def ofJson (j : Json) : Except Failure Context :=
  match Value.ofJson j with
  | .error e => .error e
  | .ok (.record root) => .ok ⟨root⟩
  | .ok v => .error (.notARecord v)

def insert (c : Context) (key : String) (v : Value) : Context := ⟨Keyed.insert key v c.root⟩

def toJson (c : Context) : Json := (Value.record c.root).toJson

/-- The value at a dotted path. Missing data is null. -/
def resolve (c : Context) (path : String) : Value :=
  ((Value.record c.root).walk? (Text.splitOn '.' path.toList)).getD .null

end Context

end Compliance
