import Compliance.Pattern.Cursor
import Compliance.Text.Digits

/-!
# Compliance.Pattern.Escape

What begins with a backslash.

* `Primitive`            — a part of an expression that stands for one character or one place.
* `Primitive.readEscape` — reads an escape.
* `escaped`              — a character as it is written to stand for itself.
-/

namespace Compliance.Pattern

/-- The smallest parts of an expression. -/
inductive Primitive where
  | literal (l : Literal)
  | dot (place : Stretch)
  | anchor (place : Stretch) (a : Anchor)
  | property (p : PropertyClass)
  | shorthand (s : ShorthandClass)

namespace Primitive

def place : Primitive → Stretch
  | .literal l => l.place
  | .dot place => place
  | .anchor place _ => place
  | .property p => p.place
  | .shorthand s => s.place

def toExpression : Primitive → Expression
  | .literal l => .literal l
  | .dot place => .dot place
  | .anchor place a => .anchor place a
  | .property p => .property p
  | .shorthand s => .shorthand s

/-! ## Hexadecimal escapes -/

/-- The character with the code point that digits denote. -/
def scalar? (digits : List Char) : Option Char :=
  let n := Text.natOfHex digits
  if n < 0xD800 || (0xDFFF < n && n ≤ 0x10FFFF) then some (Char.ofNat n) else none

/-- Reads `n` digits; in front of each but the first the cursor moves on. -/
def readHexDigits (n : Nat) (digits : List Char) (c : Cursor) :
    Except Refusal (List Char × Cursor) :=
  match n with
  | 0 => .ok (digits.reverse, c)
  | n + 1 =>
    match c.next? with
    | none => refuse .escapeAtEnd c.here
    | some d =>
      if (Text.hexDigit? d).isSome then readHexDigits n (d :: digits) c.move
      else refuse .hexDigit c.one

/-- Reads the escape of a character with a fixed number of digits, behind its letter. `start` is
the place of the backslash. -/
def readHexFixed (start width : Nat) (c : Cursor) : Except Refusal (Primitive × Cursor) :=
  match readHexDigits width [] c with
  | .error r => .error r
  | .ok (digits, rest) =>
    match scalar? digits with
    | none => refuse .hexScalar (rest.since c.offset)
    | some char => .ok (.literal ⟨rest.since start, char, width == 2⟩, rest)

/-- Reads digits up to a closing brace. The number bounds how many are read. -/
def readHexUpToBrace : Nat → List Char → Cursor → Except Refusal (List Char × Cursor)
  | 0, digits, c => .ok (digits.reverse, c)
  | fuel + 1, digits, c =>
    match c.next? with
    | none => .ok (digits.reverse, c)
    | some '\x7d' => .ok (digits.reverse, c)
    | some d =>
      if (Text.hexDigit? d).isSome then readHexUpToBrace fuel (d :: digits) c.move
      else refuse .hexDigit c.one

/-- Reads the escape of a character in braces, from the opening brace on. -/
def readHexBraces (start : Nat) (c : Cursor) : Except Refusal (Primitive × Cursor) :=
  match readHexUpToBrace c.rest.length [] c.move with
  | .error r => .error r
  | .ok (digits, close) =>
    if close.isAtEnd then refuse .escapeAtEnd (close.since c.offset)
    else
      let rest := close.move
      if digits.isEmpty then refuse .hexEmpty (rest.since c.offset)
      else
        match scalar? digits with
        | none => refuse .hexScalar (close.since (c.offset + 1))
        | some char => .ok (.literal ⟨rest.since start, char, false⟩, rest)

/-- Reads `\x`, `\u` or `\U` from its letter on; the letter tells the number of digits. -/
def readHex (start width : Nat) (c : Cursor) : Except Refusal (Primitive × Cursor) :=
  let c := c.move
  if c.isAtEnd then refuse .escapeAtEnd c.here
  else if c.sees '\x7b' then readHexBraces start c
  else readHexFixed start width c

/-! ## Properties and shorthands -/

/-- The text up to a closing brace. The number bounds how long it is. -/
def readUpToBrace : Nat → List Char → Cursor → List Char × Cursor
  | 0, name, c => (name.reverse, c)
  | fuel + 1, name, c =>
    match c.next? with
    | none => (name.reverse, c)
    | some '\x7d' => (name.reverse, c)
    | some d => readUpToBrace fuel (d :: name) c.move

/-- A text split at the first place where a given separator stands. -/
def splitAt? (separator : List Char) : List Char → Option (List Char × List Char)
  | [] => none
  | c :: rest =>
    if separator.isPrefixOf (c :: rest) then some ([], (c :: rest).drop separator.length)
    else (splitAt? separator rest).map fun p => (c :: p.1, p.2)

/-- What the text in the braces of a property asks for. -/
def queryOf (text : List Char) : PropertyQuery :=
  match (splitAt? ['!', '='] text).or ((splitAt? [':'] text).or (splitAt? ['='] text)) with
  | some (name, value) => .value (String.ofList name) (String.ofList value)
  | none => .name (String.ofList text)

/-- Reads `\p` or `\P` from its letter on. -/
def readProperty (start : Nat) (isNegated : Bool) (c : Cursor) :
    Except Refusal (Primitive × Cursor) :=
  let c := c.move
  match c.next? with
  | none => refuse .escapeAtEnd c.here
  | some '\x7b' =>
    let (name, close) := readUpToBrace c.rest.length [] c.move
    if close.isAtEnd then refuse .escapeAtEnd close.here
    else
      let rest := close.bump
      .ok (.property ⟨rest.since start, isNegated, queryOf name⟩, rest)
  | some '\\' => refuse .propertyLetter c.one
  | some letter =>
    let rest := c.move
    .ok (.property ⟨rest.since start, isNegated, .letter letter⟩, rest)

/-! ## Word boundaries -/

def isEdgeLetter (c : Char) : Bool := c.isAlpha || c == '-'

def readEdgeName : Nat → List Char → Cursor → List Char × Cursor
  | 0, name, c => (name.reverse, c)
  | fuel + 1, name, c =>
    match c.next? with
    | none => (name.reverse, c)
    | some d => if isEdgeLetter d then readEdgeName fuel (d :: name) c.move else (name.reverse, c)

def edgeOfName? (name : List Char) : Option WordEdge :=
  match String.ofList name with
  | "start" => some .start
  | "end" => some .stop
  | "start-half" => some .startHalf
  | "end-half" => some .stopHalf
  | _ => none

/-- Reads a name in braces behind `\b`, from the opening brace on. What does not begin with a
letter is left to be read as the number of a repetition. -/
def readEdge (start : Nat) (c : Cursor) : Except Refusal (Primitive × Cursor) :=
  let contents := c.move
  match contents.next? with
  | none => refuse .wordEdgeAtEnd (contents.since start)
  | some d =>
    if !isEdgeLetter d then .ok (.anchor (c.since start) (.word .either), c)
    else
      let (name, close) := readEdgeName contents.rest.length [] contents
      if !close.sees '\x7d' then refuse .wordEdgeUnclosed (close.since c.offset)
      else
        match edgeOfName? name with
        | none => refuse .wordEdgeUnknown (close.since contents.offset)
        | some edge => .ok (.anchor (close.bump.since start) (.word edge), close.bump)

/-! ## All escapes -/

/-- Characters that can be written with a backslash in front to stand for themselves: those of
ASCII except letters, digits and the two angle brackets. -/
def isEscapable (c : Char) : Bool :=
  c.toNat < 0x80 && !c.isAlphanum && c != '<' && c != '>'

/-- The control characters that are written with a letter. -/
def control? : Char → Option Char
  | 'a' => some '\x07'
  | 'f' => some '\x0c'
  | 't' => some '\t'
  | 'n' => some '\n'
  | 'r' => some '\r'
  | 'v' => some '\x0b'
  | _ => none

def shorthand? : Char → Option (Shorthand × Bool)
  | 'd' => some (.digit, false)
  | 's' => some (.blank, false)
  | 'w' => some (.word, false)
  | 'D' => some (.digit, true)
  | 'S' => some (.blank, true)
  | 'W' => some (.word, true)
  | _ => none

/-- The conditions on places that are written with a backslash. -/
def anchor? : Char → Option Anchor
  | 'A' => some .textStart
  | 'z' => some .textEnd
  | 'B' => some (.word .neither)
  | '<' => some (.word .start)
  | '>' => some (.word .stop)
  | _ => none

/-- The number of digits of a hexadecimal escape. -/
def hexWidth? : Char → Option Nat
  | 'x' => some 2
  | 'u' => some 4
  | 'U' => some 8
  | _ => none

/-- Reads an escape of one letter. -/
def readShort (start : Nat) (letter : Char) (rest : Cursor) : Except Refusal (Primitive × Cursor) :=
  let place := rest.since start
  if isEscapable letter then .ok (.literal ⟨place, letter, false⟩, rest)
  else if letter == 'b' then
    if rest.sees '\x7b' then readEdge start rest else .ok (.anchor place (.word .either), rest)
  else
    match control? letter, anchor? letter with
    | some char, _ => .ok (.literal ⟨place, char, false⟩, rest)
    | none, some a => .ok (.anchor place a, rest)
    | none, none => refuse .unknownEscape place

/-- Reads an escape, from its backslash on. -/
def readEscape (c : Cursor) : Except Refusal (Primitive × Cursor) :=
  let start := c.offset
  let letter := c.bump
  match letter.next? with
  | none => refuse .escapeAtEnd (letter.since start)
  | some char =>
    if char.isDigit then refuse .backreference (letter.bump.since start)
    else
      match hexWidth? char, shorthand? char with
      | some width, _ => readHex start width letter
      | none, some (kind, isNegated) =>
        .ok (.shorthand ⟨letter.bump.since start, isNegated, kind⟩, letter.bump)
      | none, none =>
        if char == 'p' || char == 'P' then readProperty start (char == 'P') letter
        else readShort start char letter.bump

end Primitive

/-! ## Writing -/

/-- The characters that mean something else than themselves in some place of an expression. -/
def metaCharacters : List Char :=
  ['\\', '.', '+', '*', '?', '(', ')', '|', '[', ']', '\x7b', '\x7d', '^', '$', '#', '&', '-', '~']

/-- A character as it is written to stand for itself. -/
def escaped (c : Char) : List Char := if metaCharacters.contains c then ['\\', c] else [c]

end Compliance.Pattern
