import Compliance.Pattern.Expression
import Compliance.Text.Blank

/-!
# Compliance.Pattern.Cursor

A place in the text of an expression, and how to move on from it.

* `Cursor`        — what is still to be read, and whether blanks are passed over.
* `Cursor.bump`   — the place behind the next character.
* `Cursor.move`   — the same, behind blanks and comments if these are passed over.
-/

namespace Compliance.Pattern

/-- A place in the text of an expression. In verbose expressions blanks and comments are skipped. -/
structure Cursor where
  rest : List Char
  offset : Nat
  isVerbose : Bool
deriving DecidableEq, Repr

namespace Cursor

def ofText (text : List Char) : Cursor := ⟨text, 0, false⟩

def isAtEnd (c : Cursor) : Bool := c.rest.isEmpty

/-- The next character. -/
def next? (c : Cursor) : Option Char := c.rest.head?

/-- Is the next character a given one? -/
def sees (c : Cursor) (char : Char) : Bool := c.next? == some char

/-- The empty stretch at the place. -/
def here (c : Cursor) : Stretch := .point c.offset

/-- The stretch of the next character. -/
def one (c : Cursor) : Stretch := .one c.offset

/-- The stretch from an earlier place up to this one. -/
def since (c : Cursor) (start : Nat) : Stretch := ⟨start, c.offset⟩

/-- The place behind the next character. -/
def bump (c : Cursor) : Cursor :=
  match c.rest with
  | [] => c
  | _ :: rest => ⟨rest, c.offset + 1, c.isVerbose⟩

/-- The place behind the next `n` characters. -/
def bumpBy (n : Nat) (c : Cursor) : Cursor := ⟨c.rest.drop n, c.offset + n, c.isVerbose⟩

/-- What is left behind blanks and comments, and where it begins. A comment ends with its line. -/
def dropIgnored (inComment : Bool) (offset : Nat) : List Char → List Char × Nat
  | [] => ([], offset)
  | c :: rest =>
    if inComment then dropIgnored (c != '\n') (offset + 1) rest
    else if Text.isBlank c then dropIgnored false (offset + 1) rest
    else if c == '#' then dropIgnored true (offset + 1) rest
    else (c :: rest, offset)

/-- The place behind blanks and comments, if these are passed over. -/
def skipIgnored (c : Cursor) : Cursor :=
  if c.isVerbose then
    let (rest, offset) := dropIgnored false c.offset c.rest
    ⟨rest, offset, true⟩
  else c

/-- The place behind the next character and what is passed over behind it. -/
def move (c : Cursor) : Cursor := c.bump.skipIgnored

/-- What a look past blanks finds in a verbose expression. The sign of a comment is passed over
once, but not the comment's text. -/
def lookPast (inComment : Bool) : List Char → Option Char
  | [] => none
  | c :: rest =>
    if Text.isBlank c then lookPast inComment rest
    else if !inComment && c == '#' then lookPast true rest
    else some c

/-- The character behind the next one; in a verbose expression, behind blanks. -/
def second? (c : Cursor) : Option Char :=
  let rest := c.rest.drop 1
  if c.isVerbose && !c.isAtEnd then (lookPast false rest).or rest.head? else rest.head?

/-- Does the text go on with given characters? -/
def startsWith (c : Cursor) (start : List Char) : Bool := start.isPrefixOf c.rest

end Cursor

end Compliance.Pattern
