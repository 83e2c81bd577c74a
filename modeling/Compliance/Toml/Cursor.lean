import Compliance.Toml.Fault

/-!
# Compliance.Toml.Cursor

A place in the text of a document, and the layout that can be passed over there.

* `Stop`                 — why a reader stops without a value.
* `Cursor`               — what is still to be read, and where it begins.
* `Cursor.skipBlanks`    — the place behind blanks.
* `Cursor.skipLayout`    — the place behind blanks, line ends and comments.
* `Cursor.skipSpace`     — the place behind blanks and line ends.
* `Cursor.endLine?`      — the place behind the end of a line.
-/

namespace Compliance.Toml

/-- Why a reader stops without a value. It *refuses* a text that does not begin as it should, and
another reader may try; it *breaks off* where a text goes on as it should not. -/
inductive Stop where
  | refused (e : Error)
  | broken (e : Error)

namespace Stop

def error : Stop → Error
  | .refused e => e
  | .broken e => e

/-- A stop behind which no other reader may try. -/
def final (s : Stop) : Stop := .broken s.error

end Stop

structure Cursor where
  rest : List Char
  offset : Nat

namespace Cursor

def ofText (text : List Char) : Cursor := ⟨text, 0⟩

def next? (c : Cursor) : Option Char := c.rest.head?

def sees (c : Cursor) (char : Char) : Bool := c.next? == some char

def startsWith (c : Cursor) (start : List Char) : Bool := start.isPrefixOf c.rest

/-- The place behind the next `n` characters. -/
def skip (n : Nat) (c : Cursor) : Cursor := ⟨c.rest.drop n, c.offset + n⟩

/-- The stretch of the next character, empty at the end of the text. -/
def here (c : Cursor) : Place := ⟨c.offset, if c.rest.isEmpty then c.offset else c.offset + 1⟩

/-- The stretch from an earlier place up to this one. -/
def since (c : Cursor) (start : Cursor) : Place := ⟨start.offset, c.offset⟩

/-- The characters between an earlier place and this one. -/
def textSince (c : Cursor) (start : Cursor) : List Char :=
  start.rest.take (c.offset - start.offset)

/-- A fault at the next character. -/
def fault (c : Cursor) (f : Fault) : Error := ⟨c.here, f⟩

def refuse {α : Type} (c : Cursor) (f : Fault) : Except Stop α := .error (.refused (c.fault f))

def breakOff {α : Type} (c : Cursor) (f : Fault) : Except Stop α := .error (.broken (c.fault f))

/-- The place behind all characters of a class. -/
def skipWhile (p : Char → Bool) (c : Cursor) : Cursor :=
  ⟨c.rest.dropWhile p, c.offset + (c.rest.takeWhile p).length⟩

end Cursor

/-! ## Layout -/

def isBlank (c : Char) : Bool := c == ' ' || c == '\t'

/-- What may stand in a comment: everything but the control characters. -/
def isPrintable (c : Char) : Bool := c == '\t' || (32 ≤ c.toNat && c.toNat != 127)

namespace Cursor

def skipBlanks (c : Cursor) : Cursor := c.skipWhile isBlank

/-- The place behind a line feed, with or without a carriage return in front. -/
def newline? (c : Cursor) : Option Cursor :=
  match c.rest with
  | '\n' :: _ => some (c.skip 1)
  | '\r' :: '\n' :: _ => some (c.skip 2)
  | _ => none

/-- The place behind a comment, in front of the end of its line. -/
def skipComment (c : Cursor) : Cursor := if c.sees '#' then c.skipWhile isPrintable else c

/-- What is left behind blanks, line ends and comments, and where it begins. -/
def dropLayout (inComment : Bool) (offset : Nat) : List Char → Cursor
  | [] => ⟨[], offset⟩
  | '\r' :: '\n' :: rest => dropLayout false (offset + 2) rest
  | c :: rest =>
    if c == '\n' then dropLayout false (offset + 1) rest
    else if inComment && isPrintable c then dropLayout true (offset + 1) rest
    else if isBlank c then dropLayout false (offset + 1) rest
    else if c == '#' then dropLayout true (offset + 1) rest
    else ⟨c :: rest, offset⟩

/-- The place behind blanks, line ends and comments. -/
def skipLayout (c : Cursor) : Cursor := dropLayout false c.offset c.rest

/-- What is left behind blanks and line ends, and where it begins. -/
def dropSpace (offset : Nat) : List Char → Cursor
  | [] => ⟨[], offset⟩
  | '\r' :: '\n' :: rest => dropSpace (offset + 2) rest
  | c :: rest =>
    if c == '\n' || isBlank c then dropSpace (offset + 1) rest else ⟨c :: rest, offset⟩

/-- The place behind blanks and line ends. -/
def skipSpace (c : Cursor) : Cursor := dropSpace c.offset c.rest

/-- The place behind the end of a line; the end of the text ends its last line. -/
def endLine? (c : Cursor) : Option Cursor := if c.rest.isEmpty then some c else c.newline?

/-- The place behind the end of a line on which only a comment may still stand. -/
def closeLine (c : Cursor) (f : Fault) : Except Stop Cursor :=
  let c := c.skipBlanks.skipComment
  match c.endLine? with
  | some c => .ok c
  | none => c.breakOff f

end Cursor

end Compliance.Toml
