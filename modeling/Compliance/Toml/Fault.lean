import Compliance.Text.Digits
import Compliance.Text.Lines
import Compliance.Toml

/-!
# Compliance.Toml.Fault

What can be wrong with a document, and how it is shown.

* `Cause`         — why something that can be read cannot stand.
* `Fault`         — what was being read, what could have followed, and the cause.
* `Fault.message` — the wording of a fault.
* `Error`         — a fault and its place.
* `Error.report`  — the place in a text, with marks below it, and the wording.
-/

namespace Compliance.Toml

/-- What was being read when a fault was found. -/
inductive Subject where
  | key
  | header
  | text
  | basicText
  | longBasicText
  | literalText
  | longLiteralText
  | escape
  | shortCode
  | longCode
  | integer
  | hexadecimal
  | octal
  | binary
  | real
  | dateTime
  | time
  | offset
  | list
  | inlineTable
  deriving DecidableEq, Repr

def Subject.phrase : Subject → String
  | .key => "key"
  | .header => "table header"
  | .text => "string"
  | .basicText => "basic string"
  | .longBasicText => "multiline basic string"
  | .literalText => "literal string"
  | .longLiteralText => "multiline literal string"
  | .escape => "escape sequence"
  | .shortCode => "unicode 4-digit hex code"
  | .longCode => "unicode 8-digit hex code"
  | .integer => "integer"
  | .hexadecimal => "hexadecimal integer"
  | .octal => "octal integer"
  | .binary => "binary integer"
  | .real => "floating-point number"
  | .dateTime => "date-time"
  | .time => "time"
  | .offset => "time offset"
  | .list => "array"
  | .inlineTable => "inline table"

/-- What could have stood at the place of a fault. -/
inductive Expectation where
  | newline
  | sign (s : String)
  | digit
  | leadingDigit
  deriving DecidableEq, Repr

def Expectation.phrase : Expectation → String
  | .newline => "newline"
  | .sign s => "`" ++ s ++ "`"
  | .digit => "digit"
  | .leadingDigit => "leading digit"

/-- Why something that can be read cannot stand. -/
inductive Cause where
  | outOfRange
  | tooLarge
  | tooSmall
  | tooDeep
  -- What the tables of a document refuse.
  | duplicate (key : String) (table : Option (List String))
  | extendsValue (path : List String) (kind : String)
  -- What the reader of a document refuses.
  | unknownField (name : String) (known : List String)
  | unknownChoice (name : String) (known : List String)
  | wrongType (found expected : String)
  | tooShort (length : Nat) (expected : String)
  | missingField (name : String)
  | noChoice
  | emptyChoice
  | manyChoices
  | choiceWithItems
  | choiceWithTables
  | choiceWithValue (kind : String)
  deriving DecidableEq, Repr

/-- Names joined by points. -/
def dotted (path : List String) : String := String.intercalate "." path

/-- Which of several names are known. -/
def oneOf : List String → String
  | [a] => "`" ++ a ++ "`"
  | [a, b] => "`" ++ a ++ "` or `" ++ b ++ "`"
  | names => "one of " ++ String.intercalate ", " (names.map fun n => "`" ++ n ++ "`")

def Cause.message : Cause → String
  | .outOfRange => "value is out of range"
  | .tooLarge => "number too large to fit in target type"
  | .tooSmall => "number too small to fit in target type"
  | .tooDeep => "recursion limit exceeded"
  | .duplicate key none => "duplicate key `" ++ key ++ "`"
  | .duplicate key (some []) => "duplicate key `" ++ key ++ "` in document root"
  | .duplicate key (some table) => "duplicate key `" ++ key ++ "` in table `" ++ dotted table ++ "`"
  | .extendsValue path kind =>
    "dotted key `" ++ dotted path ++ "` attempted to extend non-table type (" ++ kind ++ ")"
  | .unknownField name known => "unknown field `" ++ name ++ "`, expected " ++ oneOf known
  | .unknownChoice name known => "unknown variant `" ++ name ++ "`, expected " ++ oneOf known
  | .wrongType found expected => "invalid type: " ++ found ++ ", expected " ++ expected
  | .tooShort length expected =>
    "invalid length " ++ String.ofList (Text.digits length) ++ ", expected " ++ expected
  | .missingField name => "missing field `" ++ name ++ "`"
  | .noChoice => "wanted string or table"
  | .emptyChoice => "wanted exactly 1 element, found 0 elements"
  | .manyChoices => "wanted exactly 1 element, more than 1 element"
  | .choiceWithItems => "expected empty table"
  | .choiceWithTables => "expected empty array"
  | .choiceWithValue kind => "expected table, found " ++ kind

structure Fault where
  subject : Option Subject
  expected : List Expectation
  cause : Option Cause
  deriving DecidableEq, Repr

namespace Fault

/-- A fault of which only the place is known. -/
def bare : Fault := ⟨none, [], none⟩

def inside (s : Subject) : Fault := ⟨some s, [], none⟩

def expecting (expected : List Expectation) : Fault := ⟨none, expected, none⟩

def because (c : Cause) : Fault := ⟨none, [], some c⟩

/-- The wording of a fault, a line for each part. -/
def message (f : Fault) : String :=
  let subject := f.subject.toList.map fun s => "invalid " ++ s.phrase
  let expected := f.expected.map Expectation.phrase
  let expected :=
    if expected.isEmpty then [] else ["expected " ++ String.intercalate ", " expected]
  let cause := f.cause.toList.map Cause.message
  String.intercalate "\n" (subject ++ expected ++ cause)

end Fault

structure Error where
  place : Place
  fault : Fault
  deriving DecidableEq, Repr

/-! ## Places -/

/-- The line of the place behind `n` characters, counted from zero, and what stands in front of
the place on that line. -/
def lineBefore (text : List Char) (n : Nat) : Nat × List Char :=
  let before := text.take n
  (before.count '\n', (before.reverse.takeWhile (· != '\n')).reverse)

/-- Line and column of the place behind `n` characters, both counted from zero. The end of a text
belongs to the line of its last character. A column counts characters, but in front of a
character beyond ASCII it counts bytes. -/
def locate (text : List Char) (n : Nat) : Nat × Nat :=
  match text.drop n with
  | [] =>
    if text.isEmpty then (0, 0)
    else
      let (line, before) := lineBefore text (text.length - 1)
      (line, before.length + 1)
  | c :: _ =>
    let (line, before) := lineBefore text n
    (line, if c.toNat < 128 then before.length else Text.byteSize before)

/-- The line with a number, counted from zero. -/
def lineAt : Nat → List Char → List Char
  | 0, text => text.takeWhile (· != '\n')
  | n + 1, text => lineAt n ((text.dropWhile (· != '\n')).drop 1)

def blanks (n : Nat) : List Char := List.replicate n ' '

/-- The line of a fault with marks below the place, as far as it lies on that line, and the
wording. -/
def Error.report (text : List Char) (e : Error) : String :=
  let (line, column) := locate text e.place.start
  let number := Text.digits (line + 1)
  let content := lineAt line text
  let size := Text.byteSize ((text.take e.place.stop).drop e.place.start)
  let marks := max 1 (min size (Text.byteSize content - column))
  let gutter := blanks (number.length + 1) ++ ['|']
  String.ofList
    ("TOML parse error at line ".toList ++ number ++ ", column ".toList ++
      Text.digits (column + 1) ++ ['\n'] ++
      gutter ++ ['\n'] ++
      number ++ [' ', '|', ' '] ++ content ++ ['\n'] ++
      gutter ++ blanks (column + 1) ++ List.replicate marks '^' ++ ['\n'] ++
      e.fault.message.toList ++ ['\n'])

end Compliance.Toml
