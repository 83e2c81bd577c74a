import Compliance.Toml.Decoding
import Compliance.Toml.Reading

/-!
# Compliance.Settings

What a settings file fixes for the commands.

* `Format`          — how answers are written.
* `Settings`        — the instant at which rules are evaluated, and the format.
* `Settings.ofText?` — reads a settings file.
-/

namespace Compliance

/-- How answers are written: for people or for programs. -/
inductive Format where
  | text
  | json
  deriving DecidableEq, Repr

def Format.names : List (String × Format) := [("text", .text), ("json", .json)]

structure Settings where
  now : Option String
  format : Option Format
  deriving DecidableEq

namespace Settings

open Toml (Place Item Error Shape)

/-- Settings that leave everything open. -/
def empty : Settings := ⟨none, none⟩

def evaluationShape : Shape := ⟨"struct EvaluationConfig", ["now"]⟩

def outputShape : Shape := ⟨"struct OutputConfig", ["format"]⟩

def shape : Shape := ⟨"struct Config", ["evaluation", "output"]⟩

def readNow (_ : String) (place : Place) (item : Item) (s : Settings) : Except Error Settings :=
  (item.text? place).map fun text => { s with now := some text }

def readFormat (_ : String) (place : Place) (item : Item) (s : Settings) :
    Except Error Settings :=
  (Toml.Choice.read Format.names place item).map fun format => { s with format := some format }

/-- Takes in one of the two parts of a settings file. -/
def readPart (name : String) (place : Place) (item : Item) (s : Settings) :
    Except Error Settings :=
  if name == "evaluation" then evaluationShape.read readNow s place item
  else outputShape.read readFormat s place item

/-- Reads a settings file. -/
def ofText? (text : List Char) : Except Error Settings := do
  let root ← Toml.ofText? text
  shape.read readPart empty ⟨0, 0⟩ (.table root)

end Settings

end Compliance
