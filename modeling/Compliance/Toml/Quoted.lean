import Compliance.Toml.Cursor

/-!
# Compliance.Toml.Quoted

Texts between quotes, on one line or on several.

* `readEscape`      — the character that an escape stands for.
* `readBasic`       — a text between double quotes, with escapes.
* `readLiteral`     — a text between single quotes, as it is.
* `readLongBasic`   — a text between three double quotes.
* `readLongLiteral` — a text between three single quotes.
* `readQuoted`      — any of the four.
-/

namespace Compliance.Toml

/-- What may stand as it is between quotes: blanks and everything that shows, but not the quote
itself. -/
def isPlain (quote : Char) (c : Char) : Bool := isPrintable c && c != quote

/-- What may stand as it is between double quotes. -/
def isPlainBasic (c : Char) : Bool := isPlain '"' c && c != '\\'

/-! ## Escapes -/

/-- The character with the code that the next hexadecimal digits give. -/
def readCode (width : Nat) (subject : Subject) (c : Cursor) : Except Error (Char × Cursor) :=
  let ds := (c.rest.take width).takeWhile fun d => (Text.hexDigit? d).isSome
  let n := Text.natOfHex ds
  if ds.length < width then .error (c.fault (.inside subject))
  else if h : n.isValidChar then .ok (Char.ofNatAux n h, c.skip width)
  else .error (c.fault ⟨some subject, [], some .outOfRange⟩)

/-- The letters and signs that may follow a backslash. -/
def escapeLetters : List String := ["b", "f", "n", "r", "t", "u", "U", "\\", "\""]

/-- Reads an escape behind its backslash. A character that cannot follow is shown by the place
behind it, unless it is beyond ASCII. -/
def readEscape (letter : Char) (c : Cursor) : Except Error (Char × Cursor) :=
  match letter with
  | 'b' => .ok (Char.ofNat 8, c)
  | 'f' => .ok (Char.ofNat 12, c)
  | 'n' => .ok ('\n', c)
  | 'r' => .ok ('\r', c)
  | 't' => .ok ('\t', c)
  | '\\' => .ok ('\\', c)
  | '"' => .ok ('"', c)
  | 'u' => readCode 4 .shortCode c
  | 'U' => readCode 8 .longCode c
  | _ =>
    let place := if letter.toNat < 128 then c.here else ⟨c.offset - 1, c.offset⟩
    .error ⟨place, ⟨some .escape, escapeLetters.map .sign, none⟩⟩

/-! ## On one line -/

/-- Reads a text with escapes up to its closing quote. The number bounds how many parts are
read. -/
def readBasicFrom : Nat → Cursor → Except Error (List Char × Cursor)
  | 0, c => .error (c.fault (.inside .basicText))
  | fuel + 1, c =>
    match c.rest with
    | '"' :: _ => .ok ([], c.skip 1)
    | '\\' :: letter :: _ => do
      let (char, c) ← readEscape letter (c.skip 2)
      let (chars, c) ← readBasicFrom fuel c
      .ok (char :: chars, c)
    | char :: _ =>
      if isPlainBasic char then do
        let (chars, c) ← readBasicFrom fuel (c.skip 1)
        .ok (char :: chars, c)
      else .error (c.fault (.inside .basicText))
    | [] => .error (c.fault (.inside .basicText))

/-- Reads a text behind its double quote. -/
def readBasic (c : Cursor) : Except Error (List Char × Cursor) :=
  readBasicFrom (c.rest.length + 1) c

/-- Reads a text behind its single quote. -/
def readLiteral (c : Cursor) : Except Error (List Char × Cursor) :=
  let stop := c.skipWhile (isPlain '\'')
  if stop.sees '\'' then .ok (stop.textSince c, stop.skip 1)
  else .error (stop.fault (.inside .literalText))

/-! ## On several lines -/

/-- The place behind a backslash that ends its line: behind all blanks and line ends. -/
def skipContinuation? (c : Cursor) : Option Cursor :=
  if c.sees '\\' then ((c.skip 1).skipBlanks.newline?).map Cursor.skipSpace else none

/-- Reads one part of a text with escapes, unless there is none at the place. -/
def basicPart? (c : Cursor) : Option (Except Error (List Char × Cursor)) :=
  match c.newline?, skipContinuation? c, c.rest with
  | some c, _, _ => some (.ok (['\n'], c))
  | none, some c, _ => some (.ok ([], c))
  | none, none, '\\' :: letter :: _ =>
    some ((readEscape letter (c.skip 2)).map fun (char, c) => ([char], c))
  | none, none, char :: _ => if isPlainBasic char then some (.ok ([char], c.skip 1)) else none
  | none, none, [] => none

/-- Reads one part of a text without escapes, unless there is none at the place. -/
def literalPart? (c : Cursor) : Option (Except Error (List Char × Cursor)) :=
  match c.newline?, c.rest with
  | some c, _ => some (.ok (['\n'], c))
  | none, char :: _ => if isPlain '\'' char then some (.ok ([char], c.skip 1)) else none
  | none, [] => none

/-- Reads parts up to three quotes. One or two quotes belong to the text where another part
follows them, and so do up to two quotes in front of the closing ones. The number bounds how many
parts are read. -/
def readParts (quote : Char) (subject : Subject)
    (part? : Cursor → Option (Except Error (List Char × Cursor))) :
    Nat → Cursor → Except Error (List Char × Cursor)
  | 0, c => .error (c.fault (.inside subject))
  | fuel + 1, c =>
    match part? c with
    | some (.error e) => .error e
    | some (.ok (chars, c)) =>
      (readParts quote subject part? fuel c).map fun (more, c) => (chars ++ more, c)
    | none =>
      let count := (c.rest.takeWhile (· == quote)).length
      if 3 ≤ count then
        let own := min 2 (count - 3)
        .ok (List.replicate own quote, c.skip (own + 3))
      else if count != 0 && (part? (c.skip count)).isSome then
        (readParts quote subject part? fuel (c.skip count)).map fun (more, c) =>
          (List.replicate count quote ++ more, c)
      else .error (c.fault (.inside subject))

/-- The place behind a line end that directly follows the opening quotes. -/
def skipFirstNewline (c : Cursor) : Cursor := c.newline?.getD c

/-- Reads a text behind its three double quotes. -/
def readLongBasic (c : Cursor) : Except Error (List Char × Cursor) :=
  readParts '"' .longBasicText basicPart? (c.rest.length + 1) (skipFirstNewline c)

/-- Reads a text behind its three single quotes. -/
def readLongLiteral (c : Cursor) : Except Error (List Char × Cursor) :=
  readParts '\'' .longLiteralText literalPart? (c.rest.length + 1) (skipFirstNewline c)

/-- Reads a text in front of its quotes. -/
def readQuoted (c : Cursor) : Except Error (List Char × Cursor) :=
  if c.startsWith ['"', '"', '"'] then readLongBasic (c.skip 3)
  else if c.sees '"' then readBasic (c.skip 1)
  else if c.startsWith ['\'', '\'', '\''] then readLongLiteral (c.skip 3)
  else readLiteral (c.skip 1)

end Compliance.Toml
