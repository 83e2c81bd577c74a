import Compliance.Pattern.Expression
import Compliance.Text.Digits
import Compliance.Text.Lines

/-!
# Compliance.Pattern.Report

The wording of a refusal: the expression with marks below the places in question, and the fault.

* `Refusal.report` — the wording.
-/

namespace Compliance.Pattern

/-- A stretch by lines and columns, both counted from one. -/
structure Region where
  startLine : Nat
  startColumn : Nat
  stopLine : Nat
  stopColumn : Nat

namespace Region

def ofStretch (text : List Char) (s : Stretch) : Region :=
  let (startLine, startColumn) := Text.locate text s.start
  let (stopLine, stopColumn) := Text.locate text s.stop
  ⟨startLine, startColumn, stopLine, stopColumn⟩

def isOneLine (r : Region) : Bool := r.startLine == r.stopLine

/-- The place of a region of several lines, in words. -/
def describe (r : Region) : List Char :=
  ("on line " ++ toString r.startLine ++ " (column " ++ toString r.startColumn ++
    ") through line " ++ toString r.stopLine ++ " (column " ++ toString (r.stopColumn - 1) ++
    ")").toList

end Region

namespace Refusal

/-- The places a refusal is about, in the order of the text. -/
def places (r : Refusal) : List Stretch :=
  match r.first with
  | none => [r.place]
  | some first =>
    if first.start < r.place.start || (first.start == r.place.start && first.stop ≤ r.place.stop)
    then [first, r.place] else [r.place, first]

/-- Marks below a line. The number is that of the columns written so far. -/
def marks : Nat → List Region → List Char
  | _, [] => []
  | column, r :: rest =>
    let gap := r.startColumn - 1 - column
    let width := max 1 (r.stopColumn - r.startColumn)
    List.replicate gap ' ' ++ List.replicate width '^' ++ marks (column + gap + width) rest

/-- A line of an expression with its number in front of it, if lines are numbered. -/
def numbered (width number : Nat) (line : List Char) : List Char :=
  if width = 0 then List.replicate 4 ' ' ++ line
  else
    let ds := Text.digits number
    List.replicate (width - ds.length) ' ' ++ ds ++ [':', ' '] ++ line

/-- The lines of an expression, each with the marks below it. -/
def annotated (width : Nat) (regions : List Region) : Nat → List (List Char) → List (List Char)
  | _, [] => []
  | number, line :: rest =>
    let own := regions.filter fun r => r.startLine == number
    let below :=
      if own.isEmpty then []
      else [List.replicate (if width = 0 then 4 else width + 2) ' ' ++ marks 0 own]
    numbered width number line :: below ++ annotated width regions (number + 1) rest

/-- The number of lines of an expression; a line feed at the end begins another one. -/
def lineCount (text : List Char) : Nat :=
  (Text.lines text).length + if text.getLast? == some '\n' then 1 else 0

/-- The wording of a refusal of an expression. -/
def report (text : List Char) (r : Refusal) : String :=
  let regions := r.places.map (Region.ofStretch text)
  let oneLine := regions.filter Region.isOneLine
  let count := lineCount text
  let width := if count ≤ 1 then 0 else (Text.digits count).length
  let body := annotated width oneLine 1 (Text.lines text)
  let divider := if text.contains '\n' then [List.replicate 79 '~'] else []
  let spread :=
    if text.contains '\n' then (regions.filter fun r => !r.isOneLine).map Region.describe else []
  let all := ["regex parse error:".toList] ++ divider ++ body ++ divider ++ spread ++
    [("error: " ++ r.fault.message).toList]
  String.ofList ((all.intersperse ['\n']).flatten)

end Refusal

end Compliance.Pattern
