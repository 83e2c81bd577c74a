import Compliance.Toml.Moment
import Compliance.Toml.Number
import Compliance.Toml.Quoted
import Compliance.Toml.Table

/-!
# Compliance.Toml.Reading

Documents from text, with the place of the first fault.

* `readKey`     — a key, with all its parts.
* `readValue`   — a value.
* `Toml.ofText?` — a whole document.
-/

namespace Compliance.Toml

/-! ## Keys -/

/-- What a key without quotes is made of. -/
def isKeyChar (c : Char) : Bool := c.isAlphanum || c == '_' || c == '-'

/-- Reads one part of a key. -/
def readKeyPart (c : Cursor) : Except Stop (Key × Cursor) :=
  if c.sees '"' || c.sees '\'' then
    let quoted := if c.sees '"' then readBasic (c.skip 1) else readLiteral (c.skip 1)
    match quoted with
    | .ok (text, stop) => .ok (⟨String.ofList text, stop.since c⟩, stop)
    | .error e => .error (.broken e)
  else
    let stop := c.skipWhile isKeyChar
    if stop.offset == c.offset then c.refuse (.inside .key)
    else .ok (⟨String.ofList (stop.textSince c), stop.since c⟩, stop)

/-- Reads the parts of a key, with points between them and blanks around them. A point that no
part follows does not belong to the key. The number bounds how many parts are read. -/
def readKeyParts : Nat → Cursor → Except Stop (List Key × Cursor)
  | 0, c => c.refuse (.inside .key)
  | fuel + 1, c => do
    let (key, c) ← readKeyPart c.skipBlanks
    let c := c.skipBlanks
    if c.sees '.' then
      match readKeyParts fuel (c.skip 1) with
      | .ok (keys, c) => .ok (key :: keys, c)
      | .error (.refused _) => .ok ([key], c)
      | .error (.broken e) => .error (.broken e)
    else .ok ([key], c)

/-- Values nest at most this deep, and keys have at most as many parts. -/
def maxDepth : Nat := 79

def readKey (c : Cursor) : Except Stop (List Key × Cursor) :=
  match readKeyParts (c.rest.length + 1) c with
  | .ok (keys, stop) =>
    if maxDepth < keys.length then c.breakOff (.because .tooDeep) else .ok (keys, stop)
  | .error s => .error s

/-- Reads the sign between a key and its value. -/
def readEquals (c : Cursor) : Except Stop Cursor :=
  if c.sees '=' then .ok (c.skip 1) else c.breakOff (.expecting [.sign ".", .sign "="])

/-! ## Values -/

/-- The fault of a text that no value begins with: a text without its quotes. -/
def noValue : Fault := ⟨some .text, [.sign "\"", .sign "'"], none⟩

/-- Reads a word that is already chosen by its first letter. -/
def readWord (word : List Char) (value : Scalar) (c : Cursor) : Except Stop (Scalar × Cursor) :=
  if c.startsWith word then .ok (value, c.skip word.length) else c.breakOff noValue

/-- Reads a value without parts. -/
def readScalar (c : Cursor) : Except Stop (Scalar × Cursor) :=
  match c.next? with
  | none => c.refuse .bare
  | some char =>
    if char == '"' || char == '\'' then
      match readQuoted c with
      | .ok (text, c) => .ok (.text (String.ofList text), c)
      | .error e => .error (.broken e)
    else if char == '+' || char == '-' || char.isDigit then
      match readMoment? c with
      | some (.ok r) => .ok r
      | some (.error e) => .error (.broken e)
      | none => readNumber c
    else if char == '_' then c.refuse ⟨some .integer, [.leadingDigit], none⟩
    else if char == '.' then c.refuse ⟨some .real, [.leadingDigit], none⟩
    else if char == 't' then readWord ['t', 'r', 'u', 'e'] (.bool true) c
    else if char == 'f' then readWord ['f', 'a', 'l', 's', 'e'] (.bool false) c
    else if c.startsWith ['i', 'n', 'f'] then .ok (.infinite false, c.skip 3)
    else if c.startsWith ['n', 'a', 'n'] then .ok (.notANumber, c.skip 3)
    else c.refuse noValue

/-- Reads the items of a list behind its bracket or a comma, up to the closing bracket. A comma
may stand behind the last item. The number bounds how many items are read. -/
def readItems (value : Cursor → Except Stop (Item × Cursor)) :
    Nat → Cursor → Except Stop (List Item × Cursor)
  | 0, c => c.breakOff .bare
  | fuel + 1, c =>
    let close (items : List Item) (c : Cursor) : Except Stop (List Item × Cursor) :=
      if c.sees ']' then .ok (items, c.skip 1)
      else c.breakOff ⟨some .list, [.sign "]"], none⟩
    let start := c.skipLayout
    match value start with
    | .error (.refused _) => close [] start
    | .error (.broken e) => .error (.broken e)
    | .ok (item, c) =>
      let c := c.skipLayout
      if c.sees ',' then
        (readItems value fuel (c.skip 1)).map fun (items, c) => (item :: items, c)
      else close [item] c

/-- Reads the pairs of a table behind its brace or a comma. They end where no key follows; then
the place is that of the brace or the comma, `last`. The number bounds how many pairs are read. -/
def readPairs (value : Cursor → Except Stop (Item × Cursor)) :
    Nat → Cursor → Cursor → Except Stop (List (List Key × Item) × Cursor)
  | 0, _, c => c.breakOff .bare
  | fuel + 1, last, c =>
    match readKey c with
    | .error (.refused _) => .ok ([], last)
    | .error (.broken e) => .error (.broken e)
    | .ok (path, c) => do
      let c ← readEquals c
      let (item, c) ← (value c.skipBlanks).mapError Stop.final
      let c := c.skipBlanks
      if c.sees ',' then
        let (pairs, c) ← readPairs value fuel c (c.skip 1)
        .ok ((path, item) :: pairs, c)
      else .ok ([(path, item)], c)

/-- Reads a table between braces, in front of them. -/
def readInlineTable (value : Cursor → Except Stop (Item × Cursor)) (start : Cursor) :
    Except Stop (Item × Cursor) := do
  let first := start.skip 1
  let (pairs, c) ← readPairs value (first.rest.length + 1) first first
  match Table.ofPairs pairs with
  | .error cause => first.breakOff (.because cause)
  | .ok t =>
    let c := c.skipBlanks
    if c.sees '}' then
      let stop := c.skip 1
      .ok (.table { t with place := some (stop.since start) }, stop)
    else c.breakOff ⟨some .inlineTable, [.sign "\x7d"], none⟩

/-- Reads a list, in front of its bracket. -/
def readList (value : Cursor → Except Stop (Item × Cursor)) (start : Cursor) :
    Except Stop (Item × Cursor) := do
  let first := start.skip 1
  let (items, stop) ← readItems value (first.rest.length + 1) first
  .ok (.list (stop.since start) items, stop)

/-- Reads a value in which lists and tables nest at most `depth` deep. -/
def readValue (depth : Nat) (c : Cursor) : Except Stop (Item × Cursor) :=
  if c.sees '[' || c.sees '{' then
    match depth with
    | 0 => c.breakOff (.because .tooDeep)
    | depth + 1 =>
      if c.sees '[' then readList (readValue depth) c else readInlineTable (readValue depth) c
  else (readScalar c).map fun (value, stop) => (.scalar (stop.since c) value, stop)

/-! ## Documents -/

/-- The fault of a line that goes on behind its header or value. -/
def lineGoesOn (subject : Option Subject) : Fault := ⟨subject, [.newline, .sign "#"], none⟩

/-- Reads a header, in front of its brackets, and goes on under it. -/
def readHeader (d : Draft) (start : Cursor) : Except Stop (Draft × Cursor) := do
  if start.rest.length < 2 then start.breakOff (.inside .header)
  let isMember := start.startsWith ['[', '[']
  let close := if isMember then [']', ']'] else [']']
  let (path, c) ← (readKey (start.skip close.length)).mapError Stop.final
  if !c.startsWith close then
    c.breakOff ⟨some .header, [.sign ".", .sign (String.ofList close)], none⟩
  let stop := c.skip close.length
  let c ← stop.closeLine (lineGoesOn (some .header))
  match d.addHeader isMember (stop.since start) path with
  | .ok d => .ok (d, c)
  | .error cause => start.breakOff ⟨some .header, [], some cause⟩

/-- Reads a line with a key and its value. -/
def readPair (d : Draft) (start : Cursor) : Except Stop (Draft × Cursor) := do
  let (path, c) ← (readKey start).mapError Stop.final
  let c ← readEquals c
  let (item, c) ← (readValue maxDepth c.skipBlanks).mapError Stop.final
  let c ← c.closeLine (lineGoesOn none)
  match d.addPair path item with
  | .ok d => .ok (d, c)
  | .error cause => start.breakOff (.because cause)

/-- Reads a line of a document, in front of its first character that is no blank. -/
def readLine (d : Draft) (c : Cursor) : Except Stop (Draft × Cursor) :=
  if c.sees '[' then readHeader d c
  else if c.sees '#' || c.sees '\n' || c.sees '\r' then
    (c.closeLine .bare).map fun c => (d, c)
  else readPair d c

/-- Reads all lines of a document. The number bounds how many there are. -/
def readLines : Nat → Draft → Cursor → Except Stop Draft
  | 0, d, _ => .ok d
  | fuel + 1, d, c =>
    let c := c.skipBlanks
    if c.rest.isEmpty then .ok d
    else
      match readLine d c with
      | .ok (d, c) => readLines fuel d c
      | .error s => .error s

/-- Reads a whole document. A byte order mark in front of it does not count. -/
def ofText? (text : List Char) : Except Error Table :=
  let start := Cursor.ofText text
  let start := if start.sees '\ufeff' then start.skip 1 else start
  match readLines (text.length + 1) .empty start with
  | .ok d => .ok d.root
  | .error s => .error s.error

end Compliance.Toml
