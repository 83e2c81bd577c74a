import Compliance.Json

/-!
# Compliance.Json.Printing

The text of a document.

* `Json.compact` — on one line, without blanks.
* `Json.pretty`  — one item or field a line, indented by two blanks a level.
-/

namespace Compliance.Json

/-- The lower-case hexadecimal digit with value `n % 16`. -/
def hexDigit (n : Nat) : Char :=
  if n % 16 < 10 then Char.ofNat ('0'.toNat + n % 16) else Char.ofNat ('a'.toNat + n % 16 - 10)

/-- A character inside a quoted text. Quotes, backslashes and control characters are escaped. -/
def escaped (c : Char) : List Char :=
  if c == '"' then ['\\', '"']
  else if c == '\\' then ['\\', '\\']
  else if c == '\n' then ['\\', 'n']
  else if c == '\r' then ['\\', 'r']
  else if c == '\t' then ['\\', 't']
  else if c.toNat == 8 then ['\\', 'b']
  else if c.toNat == 12 then ['\\', 'f']
  else if c.toNat < 32 then ['\\', 'u', '0', '0', hexDigit (c.toNat / 16), hexDigit c.toNat]
  else [c]

def quoted (s : String) : String :=
  String.ofList ('"' :: (s.toList.flatMap escaped ++ ['"']))

def Number.text : Number → String
  | .int z => String.ofList (Text.intDigits z)
  | .real x => x.text

/-! ## On one line -/

mutual

def compact : Json → String
  | .null => "null"
  | .bool true => "true"
  | .bool false => "false"
  | .number n => n.text
  | .text s => quoted s
  | .list items => "[" ++ compactItems items ++ "]"
  | .record fields => "\x7b" ++ compactFields fields ++ "\x7d"

def compactItems : List Json → String
  | [] => ""
  | [j] => compact j
  | j :: rest => compact j ++ "," ++ compactItems rest

def compactFields : List (String × Json) → String
  | [] => ""
  | [(k, j)] => quoted k ++ ":" ++ compact j
  | (k, j) :: rest => quoted k ++ ":" ++ compact j ++ "," ++ compactFields rest

end

/-! ## Indented -/

/-- The blanks in front of a line at a depth. -/
def indent (depth : Nat) : String := String.ofList (List.replicate (2 * depth) ' ')

mutual

/-- The text of a document that stands at a depth. -/
def prettyAt (depth : Nat) : Json → String
  | .null => "null"
  | .bool true => "true"
  | .bool false => "false"
  | .number n => n.text
  | .text s => quoted s
  | .list [] => "[]"
  | .list items => "[\n" ++ prettyItems (depth + 1) items ++ "\n" ++ indent depth ++ "]"
  | .record [] => "\x7b\x7d"
  | .record fields =>
    "\x7b\n" ++ prettyFields (depth + 1) fields ++ "\n" ++ indent depth ++ "\x7d"

def prettyItems (depth : Nat) : List Json → String
  | [] => ""
  | [j] => indent depth ++ prettyAt depth j
  | j :: rest => indent depth ++ prettyAt depth j ++ ",\n" ++ prettyItems depth rest

def prettyFields (depth : Nat) : List (String × Json) → String
  | [] => ""
  | [(k, j)] => indent depth ++ quoted k ++ ": " ++ prettyAt depth j
  | (k, j) :: rest =>
    indent depth ++ quoted k ++ ": " ++ prettyAt depth j ++ ",\n" ++ prettyFields depth rest

end

def pretty (j : Json) : String := prettyAt 0 j

end Compliance.Json
