/-!
# Compliance.Token

Tokens of rule text and the places where they stand.

* `Position`        — line and column, both counted from one.
* `Token`           — the kinds of token.
* `Token.describe`  — how a diagnostic names a token.
* `PlacedToken`     — a token with the position of its first character.
-/

namespace Compliance

/-- A place in a text: the line, and the character within the line, both counted from one. -/
structure Position where
  line : Nat
  column : Nat
  deriving DecidableEq

namespace Position

def start : Position := ⟨1, 1⟩

/-- The place behind one character. -/
def step (p : Position) (c : Char) : Position :=
  if c == '\n' then ⟨p.line + 1, 1⟩ else ⟨p.line, p.column + 1⟩

/-- The place behind a text that starts at `p`. -/
def behind (p : Position) (cs : List Char) : Position := cs.foldl step p

end Position

inductive Token where
  /-- A name, a dotted path or a keyword. -/
  | word (w : String)
  /-- A quoted text, without its quotes. -/
  | text (s : String)
  /-- A number as it is written. -/
  | number (n : String)
  /-- A date or an instant without quotes, as it is written. -/
  | instant (t : String)
  | leftBracket
  | rightBracket
  | leftParen
  | rightParen
  | comma
  | equal
  | notEqual
  | less
  | lessEqual
  | greater
  | greaterEqual
  | endOfInput
  deriving DecidableEq

/-- How a diagnostic names a token. -/
def Token.describe : Token → String
  | .word w => "'" ++ w ++ "'"
  | .text s => "string '" ++ s ++ "'"
  | .number n => "number " ++ n
  | .instant t => "datetime " ++ t
  | .leftBracket => "'['"
  | .rightBracket => "']'"
  | .leftParen => "'('"
  | .rightParen => "')'"
  | .comma => "','"
  | .equal => "'='"
  | .notEqual => "'!='"
  | .less => "'<'"
  | .lessEqual => "'<='"
  | .greater => "'>'"
  | .greaterEqual => "'>='"
  | .endOfInput => "end of input"

structure PlacedToken where
  token : Token
  position : Position
  deriving DecidableEq

end Compliance
