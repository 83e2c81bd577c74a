/-!
# Compliance.Text.Lines

The lines of a text.

* `lines`    — the lines, without the signs that end them.
* `locate`   — line and column of a place.
* `byteSize` — the length of a text in bytes.
-/

namespace Compliance.Text

/-- A line without a carriage return at its end. -/
def dropReturn (line : List Char) : List Char :=
  if line.getLast? == some '\r' then line.dropLast else line

/-- The lines of a text; behind the last line feed there is a line only if it is not empty. The
first argument holds what has been read of the current line, in reverse. -/
def linesFrom : List Char → List Char → List (List Char)
  | [], [] => []
  | current, [] => [current.reverse]
  | current, '\n' :: rest => dropReturn current.reverse :: linesFrom [] rest
  | current, c :: rest => linesFrom (c :: current) rest

def lines (text : List Char) : List (List Char) := linesFrom [] text

/-- The line and the column, both counted from one, of the place behind `n` characters. -/
def locate (text : List Char) (n : Nat) : Nat × Nat :=
  let before := text.take n
  (before.count '\n' + 1, (before.reverse.takeWhile (· != '\n')).length + 1)

/-- The number of bytes that a text takes. -/
def byteSize (cs : List Char) : Nat := cs.foldl (fun n c => n + c.utf8Size) 0

end Compliance.Text
