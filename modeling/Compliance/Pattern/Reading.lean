import Compliance.Character.Property
import Compliance.Pattern.Brackets

/-!
# Compliance.Pattern.Reading

Reads regular expressions.

* `Expression.readGroup`  — reads the head of a group.
* `Expression.readCount`  — reads the numbers of a repetition.
* `Expression.tooDeep?`   — finds what is nested too deep.
* `Expression.ofText`     — reads a whole expression.
-/

namespace Compliance.Pattern.Expression

/-- The names of the groups read so far, with their places. -/
abbrev GroupNames := List (List Char × Stretch)

/-! ## Flags -/

def flag? : Char → Option Flag
  | 'i' => some .caseless
  | 'm' => some .multiline
  | 's' => some .dotAll
  | 'U' => some .swapGreed
  | 'u' => some .unicode
  | 'R' => some .crlf
  | 'x' => some .ignoreBlanks
  | _ => none

/-- The flags read so far, each with its place; the negation counts as one of them. -/
structure FlagList where
  changes : List FlagChange
  places : List (Flag × Stretch)
  negation : Option Stretch

/-- The changes in the order in which they are written. -/
def FlagList.inOrder (fs : FlagList) : List FlagChange := fs.changes.reverse

/-- Adds the flag written with a character. -/
def FlagList.add (fs : FlagList) (char : Char) (place : Stretch) : Except Refusal FlagList :=
  if char == '-' then
    match fs.negation with
    | some first => .error ⟨.negationTwice, place, some first⟩
    | none => .ok { fs with negation := some place }
  else
    match flag? char with
    | none => refuse .flagUnknown place
    | some flag =>
      match fs.places.find? fun p => p.1 == flag with
      | some (_, first) => .error ⟨.flagTwice, place, some first⟩
      | none =>
        .ok { fs with
              changes := ⟨flag, fs.negation.isNone⟩ :: fs.changes
              places := (flag, place) :: fs.places }

/-- Reads flags up to a colon or a closing parenthesis. `dangling` is the place of a negation that
no flag has followed yet. -/
def readFlags : Nat → FlagList → Option Stretch → Cursor → Except Refusal (FlagList × Cursor)
  | 0, fs, _, c => .ok (fs, c)
  | fuel + 1, fs, dangling, c =>
    match c.next? with
    | none => .ok (fs, c)
    | some char =>
      if char == ':' || char == ')' then
        match dangling with
        | some place => refuse .negationDangling place
        | none => .ok (fs, c)
      else
        match fs.add char c.one with
        | .error r => .error r
        | .ok fs =>
          if c.bump.isAtEnd then refuse .flagAtEnd c.bump.here
          else readFlags fuel fs (if char == '-' then some c.one else none) c.bump

/-- What a list of changes does to one flag. -/
def lastChange? (flag : Flag) (changes : List FlagChange) : Option Bool :=
  (changes.find? fun change => change.flag == flag).map FlagChange.isSet

/-! ## Groups -/

/-- May a character begin the name of a group? -/
def startsName (c : Char) : Bool := c == '_' || Character.Property.alphabetic.contains c

/-- May a character stand behind the first one in the name of a group? -/
def continuesName (c : Char) : Bool :=
  startsName c || c == '.' || c == '[' || c == ']' ||
    (Character.Category.setOf Character.Category.numbers).contains c

/-- Reads the name of a group, up to the angle bracket behind it. -/
def readName : Nat → List Char → Cursor → Except Refusal (List Char × Cursor)
  | 0, name, c => .ok (name.reverse, c)
  | fuel + 1, name, c =>
    match c.next? with
    | none => refuse .nameAtEnd c.here
    | some char =>
      if char == '>' then .ok (name.reverse, c)
      else if (if name.isEmpty then startsName char else continuesName char) then
        readName fuel (char :: name) c.bump
      else refuse .nameCharacter c.one

/-- What the head of a group says. -/
inductive GroupHead where
  | flags (changes : List FlagChange)
  | group (kind : GroupKind)

/-- Reads the name of a group and adds it to those read before. -/
def readNamed (names : GroupNames) (c : Cursor) :
    Except Refusal (GroupHead × GroupNames × Cursor) :=
  match readName (c.rest.length + 1) [] c with
  | .error r => .error r
  | .ok (name, close) =>
    let place := close.since c.offset
    if name.isEmpty then refuse .nameEmpty place
    else
      match names.find? fun p => p.1 == name with
      | some (_, first) => .error ⟨.nameTwice, place, some first⟩
      | none => .ok (.group .capturing, (name, place) :: names, close.bump)

/-- Reads what stands behind a question mark in the head of a group. `opening` is the place of the
parenthesis, `mark` the place of the question mark. -/
def readFlagged (opening mark : Stretch) (names : GroupNames) (c : Cursor) :
    Except Refusal (GroupHead × GroupNames × Cursor) :=
  if c.isAtEnd then refuse .groupUnclosed opening
  else
    match readFlags (c.rest.length + 1) ⟨[], [], none⟩ none c with
    | .error r => .error r
    | .ok (fs, close) =>
      if close.sees ')' then
        if fs.places.isEmpty then refuse .nothingToRepeat mark
        else .ok (.flags fs.inOrder, names, close.bump)
      else .ok (.group (.plain fs.inOrder), names, close.bump)

/-- The signs of assertions that look ahead or behind. -/
def lookArounds : List (List Char) := [['?', '='], ['?', '!'], ['?', '<', '='], ['?', '<', '!']]

/-- Reads the head of a group, from its parenthesis on. -/
def readGroup (names : GroupNames) (c : Cursor) :
    Except Refusal (GroupHead × GroupNames × Cursor) :=
  let opening := c.one
  let c := c.move
  match lookArounds.find? c.startsWith with
  | some sign => refuse .lookAround ⟨opening.start, c.offset + sign.length⟩
  | none =>
    if c.startsWith ['?', 'P', '<'] then readNamed names (c.bumpBy 3)
    else if c.startsWith ['?', '<'] then readNamed names (c.bumpBy 2)
    else if c.sees '?' then readFlagged opening c.here names c.bump
    else .ok (.group .capturing, names, c)

/-! ## Repetitions -/

/-- Reads a run of digits; blanks may stand around it, and between them in verbose expressions. -/
def readDigits : Nat → List Char → Cursor → List Char × Cursor
  | 0, ds, c => (ds.reverse, c)
  | fuel + 1, ds, c =>
    match c.next? with
    | some d => if d.isDigit then readDigits fuel (d :: ds) c.move else (ds.reverse, c)
    | none => (ds.reverse, c)

def skipBlanks (move : Cursor → Cursor) : Nat → Cursor → Cursor
  | 0, c => c
  | fuel + 1, c => if c.next?.any Text.isBlank then skipBlanks move fuel (move c) else c

/-- The largest number of repetitions. -/
def countLimit : Nat := 4294967295

/-- Reads a number of repetitions. A missing or excessive number is reported by the caller, who
knows whether it is needed. -/
def readCount (c : Cursor) : Except Refusal Nat × Cursor :=
  let c := skipBlanks Cursor.bump c.rest.length c
  let (ds, close) := readDigits c.rest.length [] c
  let rest := skipBlanks Cursor.move close.rest.length close
  let place := close.since c.offset
  if ds.isEmpty then (refuse .countEmpty place, rest)
  else
    let n := Text.natOfDigits ds
    if n ≤ countLimit then (.ok n, rest) else (refuse .countTooLarge place, rest)

/-- Reads the numbers of a repetition, from the opening brace to the closing one: the least and
the greatest number. The first one may be missing only where its lack is noticed later. -/
def readCounts (c : Cursor) : Except Refusal (Nat × Option Nat × Cursor) :=
  let start := c.offset
  let c := c.move
  if c.isAtEnd then refuse .countUnclosed (c.since start)
  else
    let (least, c) := readCount c
    if c.isAtEnd then refuse .countUnclosed (c.since start)
    else if !c.sees ',' then least.map fun n => (n, some n, c)
    else
      let c := c.move
      if c.isAtEnd then refuse .countUnclosed (c.since start)
      else
        match least with
        | .error r => .error r
        | .ok n =>
          if c.sees '\x7d' then .ok (n, none, c)
          else
            let (most, c) := readCount c
            most.map fun m => (n, some m, c)

/-- The cursor behind the sign that makes a repetition reluctant, if it stands here. -/
def skipReluctant (c : Cursor) : Cursor := if c.sees '?' then c.bump else c

/-- Reads a counted repetition of an expression, from the opening brace on. -/
def readCounted (inner : Expression) (c : Cursor) : Except Refusal (Expression × Cursor) :=
  match readCounts c with
  | .error r => .error r
  | .ok (least, most, close) =>
    if !close.sees '\x7d' then refuse .countUnclosed (close.since c.offset)
    else
      let rest := skipReluctant close.move
      if most.any (· < least) then refuse .countRange (rest.since c.offset)
      else .ok (.repetition (rest.since inner.place.start) inner least most, rest)

/-- The limits of the repetitions that are written with one sign. -/
def repetition? : Char → Option (Nat × Option Nat)
  | '?' => some (0, some 1)
  | '*' => some (0, none)
  | '+' => some (1, none)
  | _ => none

/-- Reads a repetition of an expression, from its sign on. -/
def readRepetition (inner : Expression) (c : Cursor) : Except Refusal (Expression × Cursor) :=
  match c.next?.bind repetition? with
  | some (least, most) =>
    let rest := skipReluctant c.bump
    .ok (.repetition (rest.since inner.place.start) inner least most, rest)
  | none => readCounted inner c

/-! ## Expressions -/

/-- A group that is being read: the alternatives before the last bar, and the items behind it, the
latest first. `opening` is missing for the whole expression. -/
structure Level where
  opening : Option Stretch
  start : Nat
  branches : List Expression
  itemsStart : Nat
  items : List Expression

/-- A group, or the whole expression, whose contents begin at a place. -/
def Level.new (opening : Option Stretch) (start : Nat) : Level := ⟨opening, start, [], start, []⟩

def Level.add (l : Level) (item : Expression) : Level := { l with items := item :: l.items }

/-- The items behind the last bar, up to a place. -/
def Level.branch (l : Level) (stop : Nat) : Expression :=
  ofItems ⟨l.itemsStart, stop⟩ l.items.reverse

/-- Goes on behind a bar that stands at a place. -/
def Level.bar (l : Level) (place : Nat) : Level :=
  { l with branches := l.branch place :: l.branches, itemsStart := place + 1, items := [] }

/-- What has been read, up to a place. -/
def Level.close (l : Level) (stop : Nat) : Expression :=
  match l.branches with
  | [] => l.branch stop
  | branches => .alternation ⟨l.start, stop⟩ (l.branch stop :: branches).reverse

/-- Reads one of the smallest parts. -/
def readPrimitive (c : Cursor) : Except Refusal (Expression × Cursor) :=
  match c.next? with
  | some '\\' => (Primitive.readEscape c).map fun (p, rest) => (p.toExpression, rest)
  | some '.' => .ok (.dot c.one, c.bump)
  | some '^' => .ok (.anchor c.one .lineStart, c.bump)
  | some '$' => .ok (.anchor c.one .lineEnd, c.bump)
  | some char => .ok (.literal ⟨c.one, char, false⟩, c.bump)
  | none => .ok (.empty, c)

/-- Is the next character the sign of a repetition? -/
def seesRepetition (c : Cursor) : Bool :=
  c.sees '?' || c.sees '*' || c.sees '+' || c.sees '\x7b'

/-- Reads on in a group, up to the parenthesis that closes it, which is left to be read, or up to
the end of the text. Each round takes a character, so the length of the text bounds their
number. -/
def readLevel : Nat → Level → GroupNames → Cursor →
    Except Refusal (Expression × GroupNames × Cursor)
  | 0, l, names, c => .ok (l.close c.offset, names, c)
  | fuel + 1, l, names, c =>
    let c := c.skipIgnored
    if c.isAtEnd then
      match l.opening with
      | some place => refuse .groupUnclosed place
      | none => .ok (l.close c.offset, names, c)
    else if c.sees ')' then
      match l.opening with
      | some _ => .ok (l.close c.offset, names, c)
      | none => refuse .groupUnopened c.one
    else if c.sees '|' then readLevel fuel (l.bar c.offset) names c.bump
    else if c.sees '(' then
      match readGroup names c with
      | .error r => .error r
      | .ok (.flags changes, names, rest) =>
        let isVerbose := (lastChange? .ignoreBlanks changes).getD rest.isVerbose
        readLevel fuel (l.add (.flags changes)) names { rest with isVerbose }
      | .ok (.group kind, names, rest) =>
        let changes := match kind with
          | .capturing => []
          | .plain changes => changes
        let isVerbose := (lastChange? .ignoreBlanks changes).getD rest.isVerbose
        match readLevel fuel (.new (some c.one) rest.offset) names { rest with isVerbose } with
        | .error r => .error r
        | .ok (inner, names, close) =>
          let rest := { close.bump with isVerbose := c.isVerbose }
          readLevel fuel (l.add (.group (rest.since c.offset) kind inner)) names rest
    else if c.sees '[' then
      match Bracket.read c with
      | .error r => .error r
      | .ok (b, rest) => readLevel fuel (l.add (.bracketed b)) names rest
    else if seesRepetition c then
      match l.items with
      | [] => refuse .nothingToRepeat c.here
      | inner :: items =>
        if !inner.isRepeatable then refuse .nothingToRepeat c.here
        else
          match readRepetition inner c with
          | .error r => .error r
          | .ok (item, rest) => readLevel fuel { l with items := item :: items } names rest
    else
      match readPrimitive c with
      | .error r => .error r
      | .ok (item, rest) => readLevel fuel (l.add item) names rest

/-! ## Depth -/

mutual

/-- The first class that is nested deeper than allowed. -/
def bracketTooDeep? : Nat → Bracket → Option Stretch
  | depth, .bracketed place _ body =>
    if depth = 0 then some place else bracketTooDeep? (depth - 1) body
  | depth, .union place items =>
    if depth = 0 then some place else bracketsTooDeep? (depth - 1) items
  | depth, .combined _ left right =>
    if depth = 0 then some (left.place.through right.place)
    else (bracketTooDeep? (depth - 1) left).or (bracketTooDeep? (depth - 1) right)
  | _, _ => none

def bracketsTooDeep? : Nat → List Bracket → Option Stretch
  | _, [] => none
  | depth, item :: rest => (bracketTooDeep? depth item).or (bracketsTooDeep? depth rest)

end

mutual

/-- The first part that is nested deeper than allowed. -/
def tooDeep? : Nat → Expression → Option Stretch
  | depth, .bracketed b => bracketTooDeep? depth b
  | depth, .repetition place inner _ _ =>
    if depth = 0 then some place else tooDeep? (depth - 1) inner
  | depth, .group place _ inner => if depth = 0 then some place else tooDeep? (depth - 1) inner
  | depth, .alternation place branches =>
    if depth = 0 then some place else anyTooDeep? (depth - 1) branches
  | depth, .concat place items =>
    if depth = 0 then some place else anyTooDeep? (depth - 1) items
  | _, _ => none

def anyTooDeep? : Nat → List Expression → Option Stretch
  | _, [] => none
  | depth, item :: rest => (tooDeep? depth item).or (anyTooDeep? depth rest)

end

/-- Reads a whole expression. -/
def ofText (text : List Char) : Except Refusal Expression :=
  let c := Cursor.ofText text
  match readLevel (text.length + 1) (.new none 0) [] c with
  | .error r => .error r
  | .ok (e, _, _) =>
    match tooDeep? depthLimit e with
    | some place => refuse .tooDeep place
    | none => .ok e

end Compliance.Pattern.Expression
