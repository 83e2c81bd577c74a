import Compliance.CharSet

/-!
# Compliance.Pattern

Regular expressions over texts, and whether one occurs in a text.

* `Boundary`           — what is asked of the place between two characters.
* `Pattern`            — the expressions.
* `Pattern.reach`      — the places a match can end at, given those it can begin at.
* `Pattern.occursIn`   — does a pattern match somewhere in a text?
* `Pattern.literal`    — the pattern of one text.
-/

namespace Compliance

/-- Where a place lies with regard to words. The halves look at one side only. -/
inductive WordEdge where
  | either | neither | start | stop | startHalf | stopHalf
deriving DecidableEq, Repr

/-- A condition on the place between two characters. A word is a run of the given letters. -/
inductive Boundary where
  | textStart | textEnd
  | lineStart | lineEnd
  | crlfLineStart | crlfLineEnd
  | word (edge : WordEdge) (letters : CharSet)
deriving DecidableEq, Repr

namespace WordEdge

/-- Does an edge lie between two characters, when it is known which of them are letters? -/
def holds : WordEdge → Bool → Bool → Bool
  | .either, before, after => before != after
  | .neither, before, after => before == after
  | .start, before, after => !before && after
  | .stop, before, after => before && !after
  | .startHalf, before, _ => !before
  | .stopHalf, _, after => !after

end WordEdge

namespace Boundary

/-- Does a place fulfil the condition? It is given by the characters at its two sides. -/
def holds : Boundary → Option Char → Option Char → Bool
  | .textStart, before, _ => before.isNone
  | .textEnd, _, after => after.isNone
  | .lineStart, before, _ => before.isNone || before == some '\n'
  | .lineEnd, _, after => after.isNone || after == some '\n'
  | .crlfLineStart, before, after =>
    before.isNone || before == some '\n' || (before == some '\r' && after != some '\n')
  | .crlfLineEnd, before, after =>
    after.isNone || after == some '\r' || (after == some '\n' && before != some '\r')
  | .word edge letters, before, after =>
    edge.holds (before.any letters.contains) (after.any letters.contains)

end Boundary

/-- A regular expression. -/
inductive Pattern where
  | empty
  | oneOf (chars : CharSet)
  | check (boundary : Boundary)
  | seq (first second : Pattern)
  | alt (left right : Pattern)
  | times (inner : Pattern) (least : Nat) (most : Option Nat)
  | group (inner : Pattern)
deriving DecidableEq, Repr

/-- For every place of a text, from the one in front of it to the one behind it: is it marked? -/
abbrev Marks := List Bool

namespace Marks

/-- The places marked in one of two lists. -/
def join (a b : Marks) : Marks := List.zipWith (· || ·) a b

/-- Applies a step up to `n` times, until it changes nothing any more. -/
def settle (step : Marks → Marks) : Nat → Marks → Marks
  | 0, marks => marks
  | n + 1, marks =>
    let next := step marks
    if next == marks then marks else settle step n next

/-- The places that runs of given characters lead to from marked places. The first argument tells
whether a run reaches the first place. -/
def spread (chars : CharSet) : Bool → Marks → List Char → Marks
  | _, [], _ => []
  | reached, m :: rest, [] => (m || reached) :: rest
  | reached, m :: rest, c :: cs =>
    (m || reached) :: spread chars ((m || reached) && chars.contains c) rest cs

end Marks

namespace Pattern

/-- The characters at the two sides of each place. -/
def sides (text : List Char) : List (Option Char × Option Char) :=
  List.zip (none :: text.map some) (text.map some ++ [none])

/-- The places where a match can end that begins at a marked place. A repetition without an upper
limit needs no more rounds than there are places: each round marks a new one or changes nothing.
Runs of single characters are followed in one pass. -/
def reach (text : List Char) : Pattern → Marks → Marks
  | .empty, marks => marks
  | .oneOf chars, marks => false :: List.zipWith (fun m c => m && chars.contains c) marks text
  | .check boundary, marks =>
    List.zipWith (fun m side => m && boundary.holds side.1 side.2) marks (sides text)
  | .seq first second, marks => second.reach text (first.reach text marks)
  | .alt left right, marks => Marks.join (left.reach text marks) (right.reach text marks)
  | .times inner least most, marks =>
    let step := inner.reach text
    let begun := Marks.settle step least marks
    match inner, most with
    | .oneOf chars, none => Marks.spread chars false begun text
    | _, none => Marks.settle (fun m => Marks.join m (step m)) (text.length + 1) begun
    | _, some most => Marks.settle (fun m => Marks.join m (step m)) (most - least) begun
  | .group inner, marks => inner.reach text marks

/-- Does the pattern match anywhere in a text? -/
def occursIn (p : Pattern) (text : List Char) : Bool :=
  (p.reach text (List.replicate (text.length + 1) true)).any id

/-- One pattern behind the other. -/
def sequence : List Pattern → Pattern
  | [] => .empty
  | [p] => p
  | p :: ps => .seq p (sequence ps)

/-- One of several patterns. -/
def choice : List Pattern → Pattern
  | [] => .oneOf CharSet.empty
  | [p] => p
  | p :: ps => .alt p (choice ps)

/-- The pattern of one character. -/
def char (c : Char) : Pattern := .oneOf (CharSet.single c)

/-- The pattern that matches one text only. -/
def literal (text : List Char) : Pattern := sequence (text.map char)

end Pattern

end Compliance
