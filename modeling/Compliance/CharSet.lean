import Compliance.Text.Blank
import Compliance.Text.Digits

/-!
# Compliance.CharSet

Sets of characters, as ranges of code points in ascending order with gaps between them.

* `CharSet.contains`    — membership.
* `CharSet.ofRanges`    — the set covered by any list of ranges.
* `union`, `inter`, `diff`, `symmDiff`, `compl` — the operations on sets.
* `CharSet.ofTable`     — reads ranges in hexadecimal, the form of the tables of the character
  standard.
-/

namespace Compliance

/-- The code points from `first` to `last`, both included. -/
structure CharRange where
  first : Nat
  last : Nat
deriving DecidableEq, Repr

structure CharSet where
  ranges : List CharRange
deriving DecidableEq, Repr

namespace CharSet

/-- The largest code point. -/
def top : Nat := 0x10FFFF

def containsCode (s : CharSet) (n : Nat) : Bool := s.ranges.any fun r => r.first ≤ n && n ≤ r.last

def contains (s : CharSet) (c : Char) : Bool := s.containsCode c.toNat

/-- Joins `r` with the ranges behind it that overlap or touch it. -/
def joinFrom (r : CharRange) : List CharRange → List CharRange
  | [] => [r]
  | s :: rest =>
    if s.first ≤ r.last + 1 then joinFrom ⟨r.first, max r.last s.last⟩ rest
    else r :: joinFrom s rest

/-- The set covered by a list of ranges in any order. -/
def ofRanges (rs : List CharRange) : CharSet :=
  match rs.mergeSort (fun a b => a.first ≤ b.first) with
  | [] => ⟨[]⟩
  | r :: rest => ⟨joinFrom r rest⟩

def empty : CharSet := ⟨[]⟩

def full : CharSet := ⟨[⟨0, top⟩]⟩

def range (a b : Char) : CharSet := ⟨[⟨a.toNat, b.toNat⟩]⟩

def single (c : Char) : CharSet := range c c

def union (s t : CharSet) : CharSet := ofRanges (s.ranges ++ t.ranges)

/-- The code points from `start` on that no range covers. -/
def gaps (start : Nat) : List CharRange → List CharRange
  | [] => if start ≤ top then [⟨start, top⟩] else []
  | r :: rest =>
    if start < r.first then ⟨start, r.first - 1⟩ :: gaps (r.last + 1) rest
    else gaps (r.last + 1) rest

def compl (s : CharSet) : CharSet := ⟨gaps 0 s.ranges⟩

def inter (s t : CharSet) : CharSet := (s.compl.union t.compl).compl

def diff (s t : CharSet) : CharSet := s.inter t.compl

def symmDiff (s t : CharSet) : CharSet := (s.diff t).union (t.diff s)

/-- Are all characters of the set in ASCII? -/
def isAscii (s : CharSet) : Bool := s.ranges.all fun r => r.last < 0x80

/-- A range as a table writes it: `41-5A`, or `AA` for a single code point. -/
def rangeOfWord (w : List Char) : CharRange :=
  match w.span (· != '-') with
  | (a, '-' :: b) => ⟨Text.natOfHex a, Text.natOfHex b⟩
  | (a, _) => ⟨Text.natOfHex a, Text.natOfHex a⟩

/-- The words of a table, with blanks between them. -/
def tableWords (table : String) : List (List Char) :=
  let (word, words) := table.toList.foldr
    (fun c (word, words) =>
      if Text.isBlank c then ([], if word.isEmpty then words else word :: words)
      else (c :: word, words))
    (([] : List Char), ([] : List (List Char)))
  if word.isEmpty then words else word :: words

/-- The set whose ranges a table lists. -/
def ofTable (table : String) : CharSet := ofRanges ((tableWords table).map rangeOfWord)

end CharSet

end Compliance
