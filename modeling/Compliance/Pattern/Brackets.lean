import Compliance.Pattern.Escape

/-!
# Compliance.Pattern.Brackets

Classes of characters in brackets.

* `Bracket.readAscii?` — reads a class with a name, such as `[:alpha:]`.
* `Bracket.readItem`   — reads a character, a range or a shorthand.
* `Bracket.read`       — reads a class in brackets.
-/

namespace Compliance.Pattern.Bracket

/-! ## Named classes -/

def asciiClass? (name : List Char) : Option AsciiClass :=
  match String.ofList name with
  | "alnum" => some .alnum
  | "alpha" => some .alpha
  | "ascii" => some .ascii
  | "blank" => some .blank
  | "cntrl" => some .cntrl
  | "digit" => some .digit
  | "graph" => some .graph
  | "lower" => some .lower
  | "print" => some .print
  | "punct" => some .punct
  | "space" => some .space
  | "upper" => some .upper
  | "word" => some .word
  | "xdigit" => some .xdigit
  | _ => none

/-- Reads a named class, if one stands here. -/
def readAscii? (c : Cursor) : Option (Bracket × Cursor) :=
  if !c.startsWith ['[', ':'] then none
  else
    let c₁ := c.bumpBy 2
    let isNegated := c₁.sees '^'
    let c₂ := if isNegated then c₁.bump else c₁
    let name := c₂.rest.takeWhile (· != ':')
    let close := c₂.bumpBy name.length
    if !close.startsWith [':', ']'] then none
    else
      let rest := close.bumpBy 2
      (asciiClass? name).map fun kind => (.ascii (rest.since c.offset) isNegated kind, rest)

/-! ## Items -/

/-- A primitive as an item of a class. Conditions on places are none. -/
def ofPrimitive : Primitive → Except Refusal Bracket
  | .literal l => .ok (.literal l)
  | .property p => .ok (.property p)
  | .shorthand s => .ok (.shorthand s)
  | .dot place => refuse .classEscape place
  | .anchor place _ => refuse .classEscape place

/-- A primitive as the end of a range. -/
def rangeEnd : Primitive → Except Refusal Literal
  | .literal l => .ok l
  | p => refuse .classRangeEnd p.place

/-- Reads one character or escape. -/
def readPrimitive (c : Cursor) : Except Refusal (Primitive × Cursor) :=
  match c.next? with
  | some '\\' => Primitive.readEscape c
  | some char => .ok (.literal ⟨c.one, char, false⟩, c.bump)
  | none => refuse .classUnclosed c.here

/-- The range between two primitives. -/
def rangeOf (first last : Primitive) : Except Refusal Bracket :=
  match rangeEnd first, rangeEnd last with
  | .error r, _ => .error r
  | _, .error r => .error r
  | .ok a, .ok b =>
    let place := first.place.through last.place
    if a.char.toNat ≤ b.char.toNat then .ok (.range place a b) else refuse .classRange place

/-- Reads a character, a range or a shorthand. A hyphen makes a range unless a hyphen or the
closing bracket stands behind it. `opening` is the text of the bracket that is open. -/
def readItem (opening : Stretch) (c : Cursor) : Except Refusal (Bracket × Cursor) :=
  match readPrimitive c with
  | .error r => .error r
  | .ok (first, c) =>
    let c := c.skipIgnored
    if c.isAtEnd then refuse .classUnclosed opening
    else if !c.sees '-' || c.second? == some ']' || c.second? == some '-' then
      (ofPrimitive first).map fun item => (item, c)
    else
      let c := c.move
      if c.isAtEnd then refuse .classUnclosed opening
      else
        match readPrimitive c with
        | .error r => .error r
        | .ok (last, c) => (rangeOf first last).map fun item => (item, c)

/-! ## Brackets -/

/-- A class whose closing bracket has not been reached. -/
structure Open where
  start : Nat
  opening : Stretch
  isNegated : Bool
  pending : Option (SetOperation × Bracket)
  itemsStart : Nat
  items : List Bracket

/-- Adds an item; the latest one stands first. -/
def Open.add (o : Open) (item : Bracket) : Open := { o with items := item :: o.items }

/-- The class read so far, joined with what stands in front of the pending operation. -/
def Open.joined (o : Open) : Bracket :=
  let items := ofItems o.itemsStart o.items.reverse
  match o.pending with
  | none => items
  | some (op, left) => .combined op left items

/-- Goes on behind an operation, which applies to all in front of it. -/
def Open.operate (o : Open) (op : SetOperation) (c : Cursor) : Open :=
  { o with pending := some (op, o.joined), itemsStart := c.offset, items := [] }

/-- The whole class; its closing bracket ends in front of the given place. -/
def Open.close (o : Open) (stop : Nat) : Bracket := .bracketed ⟨o.start, stop⟩ o.isNegated o.joined

/-- The hyphens that stand first in brackets are characters. -/
def readHyphens (start : Nat) : Nat → List Bracket → Cursor →
    Except Refusal (List Bracket × Cursor)
  | 0, items, c => .ok (items, c)
  | fuel + 1, items, c =>
    if !c.sees '-' then .ok (items, c)
    else
      let next := c.move
      if next.isAtEnd then refuse .classUnclosed (.point start)
      else readHyphens start fuel (.literal ⟨c.one, '-', false⟩ :: items) next

/-- Reads an opening bracket with what has a meaning of its own behind it: a caret, hyphens, or a
closing bracket as the first character. -/
def readOpening (c : Cursor) : Except Refusal (Open × Cursor) :=
  let start := c.offset
  let c := c.move
  if c.isAtEnd then refuse .classUnclosed (c.since start)
  else
    let isNegated := c.sees '^'
    let c := if isNegated then c.move else c
    if c.isAtEnd then refuse .classUnclosed (c.since start)
    else
      match readHyphens start c.rest.length [] c with
      | .error r => .error r
      | .ok (items, rest) =>
        if items.isEmpty && rest.sees ']' then
          let next := rest.move
          if next.isAtEnd then refuse .classUnclosed (next.since start)
          else
            let item := .literal ⟨rest.one, ']', false⟩
            .ok (⟨start, next.since start, isNegated, none, c.offset, [item]⟩, next)
        else .ok (⟨start, rest.since start, isNegated, none, c.offset, items⟩, rest)

/-- The operation that is written here, with two equal characters. -/
def operation? (c : Cursor) : Option SetOperation :=
  if c.startsWith ['&', '&'] then some .intersection
  else if c.startsWith ['-', '-'] then some .difference
  else if c.startsWith ['~', '~'] then some .symmetricDifference
  else none

/-- Reads on in brackets, up to the one that closes them. Each round takes a character, so the
length of the text bounds their number. -/
def readBody : Nat → Open → Cursor → Except Refusal (Bracket × Cursor)
  | 0, o, _ => refuse .classUnclosed o.opening
  | fuel + 1, o, c =>
    let c := c.skipIgnored
    if c.isAtEnd then refuse .classUnclosed o.opening
    else if c.sees '[' then
      match readAscii? c with
      | some (item, rest) => readBody fuel (o.add item) rest
      | none =>
        match readOpening c with
        | .error r => .error r
        | .ok (inner, rest) =>
          match readBody fuel inner rest with
          | .error r => .error r
          | .ok (item, rest) => readBody fuel (o.add item) rest
    else if c.sees ']' then .ok (o.close (c.offset + 1), c.bump)
    else
      match operation? c with
      | some op => readBody fuel (o.operate op (c.bumpBy 2)) (c.bumpBy 2)
      | none =>
        match readItem o.opening c with
        | .error r => .error r
        | .ok (item, rest) => readBody fuel (o.add item) rest

/-- Reads a class, from its opening bracket on. -/
def read (c : Cursor) : Except Refusal (Bracket × Cursor) :=
  match readOpening c with
  | .error r => .error r
  | .ok (o, rest) => readBody (rest.rest.length + 1) o rest

end Compliance.Pattern.Bracket
