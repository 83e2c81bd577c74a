import Compliance.Failure
import Compliance.Text.Quoted

/-!
# Compliance.Functions

The functions that rules can call. They take no arguments and see the instant of the evaluation.

* `Function`                — a value for each instant.
* `FunctionTable`           — functions by their names.
* `FunctionTable.standard`  — `NOW` and `TODAY`.
* `FunctionTable.register`  — adds a function, or replaces one.
* `FunctionTable.call`      — the value of a function.
* `FunctionTable.display`   — the names, quoted and in braces.
-/

namespace Compliance

/-- A function. It may have no value at some instants. -/
abbrev Function := Instant → Option Value

/-- Functions by their names, in the order of the names. -/
structure FunctionTable where
  entries : List (String × Function)

namespace FunctionTable

def empty : FunctionTable := ⟨[]⟩

def register (t : FunctionTable) (name : String) (f : Function) : FunctionTable :=
  ⟨Keyed.insert name f t.entries⟩

/-- The instant of the evaluation. -/
def now : Function := fun t => some (.instant t)

/-- The UTC midnight at the start of the day, where that day is in the calendar. -/
def today : Function := fun t => t.utcMidnight?.map .instant

def standard : FunctionTable := (empty.register "NOW" now).register "TODAY" today

def find? (t : FunctionTable) (name : String) : Option Function := Keyed.find? name t.entries

def contains (t : FunctionTable) (name : String) : Bool := (t.find? name).isSome

def names (t : FunctionTable) : List String := t.entries.map Prod.fst

/-- The names in braces. -/
def display (t : FunctionTable) : String :=
  "\x7b" ++ String.intercalate ", " (t.names.map Text.quoted) ++ "\x7d"

/-- The value of a function at an instant. -/
def call (t : FunctionTable) (name : String) (instant : Instant) : Except Failure Value :=
  match t.find? name with
  | none => .error (.unknownFunction name)
  | some f =>
    match f instant with
    | none => .error (.noValue name)
    | some v => .ok v

/-- Is a function known, but without a value at an instant? -/
def lacksValue (t : FunctionTable) (name : String) (instant : Instant) : Bool :=
  match t.find? name with
  | none => false
  | some f => (f instant).isNone

end FunctionTable

end Compliance
