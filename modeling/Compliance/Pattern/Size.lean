import Compliance.Pattern

/-!
# Compliance.Pattern.Size

How much room a pattern takes as an automaton over UTF-8 bytes. Patterns that take too much are
not run.

* `utf8Paths`        — the byte sequences of a set of characters.
* `Pattern.room`     — the bytes the states of a pattern take.
* `Pattern.isTooBig` — does a pattern take more than allowed?
-/

namespace Compliance.Pattern

/-- The bytes a state takes. -/
def stateRoom : Nat := 32

/-! ## Sets of characters -/

/-- A range of bytes. -/
abbrev ByteRange := Nat × Nat

/-- The first and the last code point that take `n` bytes each, one and more bytes. -/
def widths : List (Nat × Nat × Nat) :=
  [(1, 0, 0x7F), (2, 0x80, 0x7FF), (3, 0x800, 0xD7FF), (3, 0xE000, 0xFFFF),
   (4, 0x10000, 0x10FFFF)]

/-- What the marker bits add to the first of `n` bytes. -/
def leadMark : Nat → Nat
  | 1 => 0
  | 2 => 0xC0
  | 3 => 0xE0
  | _ => 0xF0

/-- The number of code points that share their bytes in front of the last `n` ones. -/
def blockSize (n : Nat) : Nat := Nat.pow 64 n

/-- The byte sequences of the code points from `a` to `b`, whose first byte has the given mark and
`n` bytes behind it. All sequences are products of ranges: a range of code points is cut where its
first and last byte are not followed by all bytes. -/
def paths (mark : Nat) : Nat → Nat → Nat → List (List ByteRange)
  | 0, a, b => [[(mark + a, mark + b)]]
  | n + 1, a, b =>
    let unit := blockSize (n + 1)
    let (hi, lo) := (a / unit, a % unit)
    let (hi', lo') := (b / unit, b % unit)
    let all := List.replicate (n + 1) (0x80, 0xBF)
    if hi == hi' then (paths 0x80 n lo lo').map fun p => (mark + hi, mark + hi) :: p
    else
      let first := if lo == 0 then [] else
        (paths 0x80 n lo (unit - 1)).map fun p => (mark + hi, mark + hi) :: p
      let last := if lo' == unit - 1 then [] else
        (paths 0x80 n 0 lo').map fun p => (mark + hi', mark + hi') :: p
      let least := if lo == 0 then hi else hi + 1
      let stop := if lo' == unit - 1 then hi' + 1 else hi'
      let middle := if least < stop then [(mark + least, mark + stop - 1) :: all] else []
      first ++ middle ++ last

/-- The byte sequences of a set of characters. -/
def utf8Paths (s : CharSet) : List (List ByteRange) :=
  s.ranges.flatMap fun r =>
    widths.flatMap fun (n, least, greatest) =>
      let a := max r.first least
      let b := min r.last greatest
      if a ≤ b then paths (leadMark n) (n - 1) a b else []

/-- The length of the common beginning of two lists. -/
def commonLength : List ByteRange → List ByteRange → Nat
  | p :: ps, q :: qs => if p == q then commonLength ps qs + 1 else 0
  | _, _ => 0

/-- The number of different non-empty beginnings of sequences in ascending order: each adds those
that are longer than what it has in common with the one in front of it. -/
def beginnings (last : List ByteRange) : List (List ByteRange) → Nat
  | [] => 0
  | p :: ps => p.length - commonLength last p + beginnings p ps

/-- The room for a set of characters: a state for each range of bytes, where sequences share those
at their start. A single character takes a state for each of its bytes. -/
def setRoom (s : CharSet) : Nat :=
  match s.ranges with
  | [⟨a, b⟩] =>
    if a == b then (Char.ofNat a).utf8Size * stateRoom else pathsRoom s
  | _ => pathsRoom s
where
  pathsRoom (s : CharSet) : Nat :=
    if s.isAscii then 2 * stateRoom + 8 * s.ranges.length
    else
      let ps := utf8Paths s
      (beginnings [] ps + 2) * stateRoom + 4 * ps.length

/-! ## Patterns -/

/-- Does the pattern match nothing but the empty text? -/
def isBlank : Pattern → Bool
  | .empty => true
  | .oneOf _ => false
  | .check _ => true
  | .seq p q => p.isBlank && q.isBlank
  | .alt p q => p.isBlank && q.isBlank
  | .times p _ most => most == some 0 || p.isBlank
  | .group p => p.isBlank

/-- The room for a junction of two ways. -/
def junctionRoom : Nat := stateRoom + 8

/-- The room for a pattern, where sets of characters take `sets` and the ends of a group take
`ends`. Repetitions are written out as often as they count; what is empty takes no room in a
sequence. -/
def room (sets : CharSet → Nat) (ends : Nat) : Pattern → Nat
  | .empty => stateRoom
  | .oneOf s => sets s
  | .check _ => stateRoom
  | .seq .empty q => q.room sets ends
  | .seq p .empty => p.room sets ends
  | .seq p q => p.room sets ends + q.room sets ends
  | .alt p q => p.room sets ends + q.room sets ends + junctionRoom
  | .times p least most =>
    let inner := p.room sets ends
    let least := if p.isBlank then min least 1 else least
    match if p.isBlank then some (min (most.getD 1) 1) else most with
    | none => max least 1 * inner + junctionRoom
    | some most => least * inner + (most - least) * (inner + junctionRoom) + stateRoom
  | .group p => p.room sets ends + ends

/-- The most room a pattern may take. -/
def roomLimit : Nat := 10485760

/-- Is the automaton that reads forwards and keeps the ends of groups, or the one that reads
backwards and needs more for sets of characters, bigger than allowed? -/
def isTooBig (p : Pattern) : Bool :=
  p.room (fun s => min (setRoom s) (2 * stateRoom)) (2 * stateRoom) > roomLimit ||
    p.room setRoom 0 > roomLimit

end Compliance.Pattern
