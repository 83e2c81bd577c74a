import Compliance.Json
import Compliance.Text.Lines

/-!
# Compliance.Json.Reading

Documents from text, with the place of the first fault.

* `Json.Fault`     — what can be wrong with a text.
* `Json.Failure`   — a fault, and the text that was left when it was found.
* `Json.significand`, `Json.realNumber` — numbers are made of the digits that sixty-four bits hold.
* `Json.ofText?`   — reads a whole text. Records may repeat a key, the last one counts; lists and
  records nest up to `maxDepth` deep; numbers must be in the range of binary fractions.
* `Json.ReadError` — a fault with the line and the column where it lies.
-/

namespace Compliance.Json

inductive Fault where
  | endInList
  | endInRecord
  | endInText
  | endInValue
  | expectedColon
  | expectedListEnd
  | expectedRecordEnd
  | expectedWord
  | expectedValue
  | invalidEscape
  | invalidNumber
  | numberTooLarge
  | controlCharacter
  | keyNotText
  | loneSurrogate
  | trailingComma
  | trailingCharacters
  | shortEscape
  | tooDeep
  deriving DecidableEq

def Fault.message : Fault → String
  | .endInList => "EOF while parsing a list"
  | .endInRecord => "EOF while parsing an object"
  | .endInText => "EOF while parsing a string"
  | .endInValue => "EOF while parsing a value"
  | .expectedColon => "expected `:`"
  | .expectedListEnd => "expected `,` or `]`"
  | .expectedRecordEnd => "expected `,` or `\x7d`"
  | .expectedWord => "expected ident"
  | .expectedValue => "expected value"
  | .invalidEscape => "invalid escape"
  | .invalidNumber => "invalid number"
  | .numberTooLarge => "number out of range"
  | .controlCharacter => "control character (\\u0000-\\u001F) found while parsing a string"
  | .keyNotText => "key must be a string"
  | .loneSurrogate => "lone leading surrogate in hex escape"
  | .trailingComma => "trailing comma"
  | .trailingCharacters => "trailing characters"
  | .shortEscape => "unexpected end of hex escape"
  | .tooDeep => "recursion limit exceeded"

/-- A fault found `into` bytes behind the start of `rest`, the text that was not read yet. -/
structure Failure where
  fault : Fault
  rest : List Char
  into : Nat

/-- A fault in front of the next character. -/
def fail {α : Type} (fault : Fault) (rest : List Char) : Except Failure α :=
  .error ⟨fault, rest, 0⟩

/-- A fault at the next character. -/
def failAt {α : Type} (fault : Fault) (rest : List Char) : Except Failure α :=
  .error ⟨fault, rest, 1⟩

/-- Blank, tab and the two line ends. -/
def isLayout (c : Char) : Bool := c == ' ' || c == '\n' || c == '\t' || c == '\r'

def skipLayout (cs : List Char) : List Char := cs.dropWhile isLayout

/-- Reads the letters of a word that is already chosen by its first letter. -/
def readWord : List Char → List Char → Except Failure (List Char)
  | [], cs => .ok cs
  | _ :: _, [] => fail .endInValue []
  | e :: es, c :: cs => if c == e then readWord es cs else failAt .expectedWord (c :: cs)

/-! ## Numbers -/

/-- Goes on with a number by further digits as far as sixty-four bits hold it; the others are
left. -/
def takeFitting (n : Nat) : List Char → Nat × List Char
  | [] => (n, [])
  | c :: cs =>
    let next := 10 * n + Text.natOfDigits [c]
    if Text.fitsNat64 next then takeFitting next cs else (n, c :: cs)

/-- The digits of a number that sixty-four bits hold, and the exponent of ten that they need. Whole
digits beyond them raise it, places beyond them are dropped. -/
def significand (whole places : List Char) : Nat × Int :=
  let (n, beyond) := takeFitting 0 whole
  let (m, dropped) := takeFitting n places
  (m, (beyond.length : Int) - (places.length - dropped.length : Nat))

/-- The number with these digits and an exponent, where it is in range. -/
def realNumber (negative : Bool) (whole places : List Char) (exponent : Int) (rest : List Char) :
    Except Failure (Json × List Char) :=
  let (digits, shift) := significand whole places
  match Binary64.ofParts? negative digits (shift + exponent) with
  | some x => .ok (.number (.real x), rest)
  | none => fail .numberTooLarge rest

/-- A number without point and exponent: an integer where sixty-four bits hold it. Minus zero is
no integer. -/
def wholeNumber (negative : Bool) (digits : List Char) (rest : List Char) :
    Except Failure (Json × List Char) :=
  let n := Text.natOfDigits digits
  if !negative && Text.fitsNat64 n then .ok (.number (.int n), rest)
  else if negative && n != 0 && Text.fitsInt64 (-(n : Int)) then
    .ok (.number (.int (-(n : Int))), rest)
  else realNumber negative digits [] 0 rest

/-- The exponents are numbers of thirty-two bits. -/
def maxExponent : Nat := 2147483647

/-- The text behind the first digit with which the exponent leaves its range. -/
def behindExponent : Nat → List Char → List Char
  | _, [] => []
  | n, c :: cs =>
    let n := 10 * n + Text.natOfDigits [c]
    if maxExponent < n then cs else behindExponent n cs

/-- Reads the exponent of a number behind its letter. -/
def readExponent (negative : Bool) (whole places : List Char) (cs : List Char) :
    Except Failure (Json × List Char) :=
  let (minus, cs) := match cs with
    | '+' :: cs => (false, cs)
    | '-' :: cs => (true, cs)
    | cs => (false, cs)
  match Text.takeDigits cs with
  | ([], []) => fail .endInValue []
  | ([], c :: rest) => failAt .invalidNumber (c :: rest)
  | (ds, rest) =>
    let k := Text.natOfDigits ds
    if maxExponent < k && !minus && (significand whole places).1 != 0 then
      fail .numberTooLarge (behindExponent 0 (ds ++ rest))
    else realNumber negative whole places (if minus then -(k : Int) else k) rest

/-- Reads what may follow the integer digits of a number. -/
def readFraction (negative : Bool) (digits : List Char) :
    List Char → Except Failure (Json × List Char)
  | '.' :: cs =>
    match Text.takeDigits cs with
    | ([], []) => fail .endInValue []
    | ([], c :: rest) => failAt .invalidNumber (c :: rest)
    | (ds, 'e' :: rest) => readExponent negative digits ds rest
    | (ds, 'E' :: rest) => readExponent negative digits ds rest
    | (ds, rest) => realNumber negative digits ds 0 rest
  | 'e' :: cs => readExponent negative digits [] cs
  | 'E' :: cs => readExponent negative digits [] cs
  | cs => wholeNumber negative digits cs

/-- Reads a number behind its sign. A zero in front is the only digit of its integer part. -/
def readNumber (negative : Bool) (cs : List Char) : Except Failure (Json × List Char) :=
  match Text.takeDigits cs with
  | ([], []) => fail .endInValue []
  | ([], c :: rest) => failAt .invalidNumber (c :: rest)
  | ('0' :: d :: ds, rest) => failAt .invalidNumber (d :: ds ++ rest)
  | (ds, rest) => readFraction negative ds rest

/-- Reads a number with its sign. -/
def readSigned : List Char → Except Failure (Json × List Char)
  | '-' :: cs => readNumber true cs
  | cs => readNumber false cs

/-- Reads a whole text as a number. -/
def Number.ofText? (s : String) : Option Number :=
  match readSigned s.toList with
  | .ok (.number n, []) => some n
  | _ => none

/-! ## Texts -/

/-- The value of the next four hexadecimal digits. -/
def fourHex (cs : List Char) : Except Failure Nat :=
  if Text.byteSize (cs.take 4) < 4 then fail .endInText []
  else
    match (cs.take 4).mapM Text.hexDigit? with
    | some [a, b, c, d] => .ok (((16 * a + b) * 16 + c) * 16 + d)
    | _ => .error ⟨.invalidEscape, cs, 4⟩

def isHighSurrogate (n : Nat) : Bool := 0xD800 ≤ n && n ≤ 0xDBFF

def isLowSurrogate (n : Nat) : Bool := 0xDC00 ≤ n && n ≤ 0xDFFF

/-- Checks that a text goes on with a given character. -/
def expectInPair (expected : Char) : List Char → Except Failure (List Char)
  | [] => fail .endInText []
  | c :: cs => if c == expected then .ok cs else failAt .shortEscape (c :: cs)

/-- Reads the second half of a surrogate pair, in front of its backslash. -/
def readLowSurrogate (high : Nat) (cs : List Char) : Except Failure Char := do
  let cs ← expectInPair '\\' cs
  let cs ← expectInPair 'u' cs
  let low ← fourHex cs
  if isLowSurrogate low then
    .ok (Char.ofNat ((high - 0xD800) * 1024 + (low - 0xDC00) + 0x10000))
  else fail .loneSurrogate (cs.drop 4)

/-- Reads an escape behind its backslash: the character it stands for, and how many characters
of the text it takes. -/
def readEscape : List Char → Except Failure (Char × Nat)
  | [] => fail .endInText []
  | 'u' :: cs => do
    let n ← fourHex cs
    if isLowSurrogate n then fail .loneSurrogate (cs.drop 4)
    else if isHighSurrogate n then (readLowSurrogate n (cs.drop 4)).map fun c => (c, 11)
    else .ok (Char.ofNat n, 5)
  | c :: cs =>
    match c with
    | '"' => .ok ('"', 1)
    | '\\' => .ok ('\\', 1)
    | '/' => .ok ('/', 1)
    | 'b' => .ok (Char.ofNat 8, 1)
    | 'f' => .ok (Char.ofNat 12, 1)
    | 'n' => .ok ('\n', 1)
    | 'r' => .ok ('\r', 1)
    | 't' => .ok ('\t', 1)
    | _ => failAt .invalidEscape (c :: cs)

/-- Reads a text behind its opening quote. -/
def readText (cs : List Char) : Except Failure (List Char × List Char) :=
  match cs with
  | [] => fail .endInText []
  | c :: cs =>
    if c == '"' then .ok ([], cs)
    else if c == '\\' then
      match readEscape cs with
      | .error e => .error e
      | .ok (d, n) => (readText (cs.drop n)).map fun (ds, rest) => (d :: ds, rest)
    else if c.toNat < 32 then failAt .controlCharacter (c :: cs)
    else (readText cs).map fun (ds, rest) => (c :: ds, rest)
termination_by cs.length
decreasing_by
  · simp only [List.length_drop, List.length_cons]; omega
  · simp

/-! ## Documents -/

/-- Reads the items of a list behind its bracket, up to the closing one. `first` says that no
item has been read yet; the number bounds how many are. -/
def readItems (item : List Char → Except Failure (Json × List Char)) (first : Bool) :
    Nat → List Char → Except Failure (List Json × List Char)
  | 0, cs => fail .endInList cs
  | fuel + 1, cs =>
    let next (cs : List Char) : Except Failure (List Json × List Char) := do
      let (j, cs) ← item cs
      let (js, cs) ← readItems item false fuel cs
      .ok (j :: js, cs)
    match skipLayout cs with
    | [] => fail .endInList []
    | ']' :: cs => .ok ([], cs)
    | c :: cs =>
      if first then next (c :: cs)
      else if c == ',' then
        match skipLayout cs with
        | [] => fail .endInValue []
        | ']' :: cs => failAt .trailingComma (']' :: cs)
        | cs => next cs
      else failAt .expectedListEnd (c :: cs)

/-- Reads a field in front of its key. -/
def readField (item : List Char → Except Failure (Json × List Char)) :
    List Char → Except Failure ((String × Json) × List Char)
  | '"' :: cs => do
    let (key, cs) ← readText cs
    match skipLayout cs with
    | [] => fail .endInRecord []
    | ':' :: cs => do
      let (j, cs) ← item cs
      .ok ((String.ofList key, j), cs)
    | cs => failAt .expectedColon cs
  | cs => failAt .keyNotText cs

/-- Reads the fields of a record behind its brace, up to the closing one. -/
def readFields (item : List Char → Except Failure (Json × List Char)) (first : Bool) :
    Nat → List Char → Except Failure (List (String × Json) × List Char)
  | 0, cs => fail .endInRecord cs
  | fuel + 1, cs =>
    let next (cs : List Char) : Except Failure (List (String × Json) × List Char) := do
      let (field, cs) ← readField item cs
      let (fields, cs) ← readFields item false fuel cs
      .ok (field :: fields, cs)
    match skipLayout cs with
    | [] => fail .endInRecord []
    | '}' :: cs => .ok ([], cs)
    | c :: cs =>
      if first then next (c :: cs)
      else if c == ',' then
        match skipLayout cs with
        | [] => fail .endInValue []
        | '}' :: cs => failAt .trailingComma ('}' :: cs)
        | cs => next cs
      else failAt .expectedRecordEnd (c :: cs)

/-- Lists and records nest at most this deep. -/
def maxDepth : Nat := 127

/-- Reads a document in which lists and records nest at most `depth` deep. -/
def readDocument (depth : Nat) (cs : List Char) : Except Failure (Json × List Char) :=
  match skipLayout cs with
  | [] => fail .endInValue []
  | 'n' :: cs => (readWord ['u', 'l', 'l'] cs).map (Json.null, ·)
  | 't' :: cs => (readWord ['r', 'u', 'e'] cs).map (Json.bool true, ·)
  | 'f' :: cs => (readWord ['a', 'l', 's', 'e'] cs).map (Json.bool false, ·)
  | '"' :: cs => (readText cs).map fun (s, rest) => (.text (String.ofList s), rest)
  | '-' :: cs => readNumber true cs
  | c :: cs =>
    if c.isDigit then readNumber false (c :: cs)
    else if c == '[' || c == '{' then
      match depth with
      | 0 => failAt .tooDeep (c :: cs)
      | depth + 1 =>
        if c == '[' then
          (readItems (readDocument depth) true (cs.length + 1) cs).map fun (js, rest) =>
            (.list js, rest)
        else
          (readFields (readDocument depth) true (cs.length + 1) cs).map fun (fields, rest) =>
            (ofFields fields, rest)
    else failAt .expectedValue (c :: cs)

/-- Reads a whole text as one document. -/
def readWhole (cs : List Char) : Except Failure Json := do
  let (j, rest) ← readDocument maxDepth cs
  match skipLayout rest with
  | [] => .ok j
  | rest => failAt .trailingCharacters rest

/-! ## Places -/

/-- A fault with its line, counted from one, and its column: the number of bytes of that line up
to the fault. -/
structure ReadError where
  fault : Fault
  line : Nat
  column : Nat
  deriving DecidableEq

/-- Line and column behind the first `index` bytes of a text. -/
def place (line column : Nat) : Nat → List Char → Nat × Nat
  | _, [] => (line, column)
  | index, c :: cs =>
    if index == 0 then (line, column)
    else if c == '\n' then place (line + 1) 0 (index - 1) cs
    else if index < c.utf8Size then (line, column + index)
    else place line (column + c.utf8Size) (index - c.utf8Size) cs

def Failure.locate (source : List Char) (f : Failure) : ReadError :=
  let (line, column) := place 1 0 (Text.byteSize source - Text.byteSize f.rest + f.into) source
  ⟨f.fault, line, column⟩

def ReadError.message (e : ReadError) : String :=
  e.fault.message ++ " at line " ++ String.ofList (Text.digits e.line) ++ " column " ++
    String.ofList (Text.digits e.column)

/-- Reads a whole text as one document. -/
def ofText? (source : String) : Except ReadError Json :=
  (readWhole source.toList).mapError (·.locate source.toList)

end Compliance.Json
