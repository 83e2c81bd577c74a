import Compliance.Character.Folding
import Compliance.Character.Property
import Compliance.Character.Script
import Compliance.Pattern.Expression

/-!
# Compliance.Pattern.Meaning

What an expression stands for: the pattern it denotes under the flags that hold.

* `Flags`                 — the flags that matter for the meaning.
* `PropertyClass.meaning` — the characters with a property.
* `Bracket.meaning`       — the characters of a class.
* `Expression.meaning`    — the pattern of an expression.
-/

namespace Compliance.Pattern

/-- The flags that matter for what an expression matches. -/
structure Flags where
  caseless : Bool
  multiline : Bool
  dotAll : Bool
  unicode : Bool
  crlf : Bool
deriving DecidableEq, Repr

namespace Flags

/-- The flags at the start of every expression. -/
def initial : Flags := ⟨false, false, false, true, false⟩

def change (fs : Flags) (c : FlagChange) : Flags :=
  match c.flag with
  | .caseless => { fs with caseless := c.isSet }
  | .multiline => { fs with multiline := c.isSet }
  | .dotAll => { fs with dotAll := c.isSet }
  | .unicode => { fs with unicode := c.isSet }
  | .crlf => { fs with crlf := c.isSet }
  | .swapGreed => fs
  | .ignoreBlanks => fs

def changeAll (fs : Flags) (cs : List FlagChange) : Flags := cs.foldl change fs

end Flags

/-! ## Properties -/

/-- The name of a property as it is looked up: without separators and characters outside ASCII, in
lower case, and without a leading `is`. The abbreviation `isc` is kept, for it names a property of
its own. -/
def looseName (name : String) : String :=
  let isSeparator (c : Char) : Bool := c == ' ' || c == '_' || c == '-'
  let plain (cs : List Char) : List Char :=
    (cs.filter fun c => !isSeparator c && c.toNat < 0x80).map Char.toLower
  match name.toList with
  | 'i' :: 's' :: rest | 'I' :: 's' :: rest | 'i' :: 'S' :: rest | 'I' :: 'S' :: rest =>
    if plain rest == ['c'] then "isc" else String.ofList (plain rest)
  | cs => String.ofList (plain cs)

namespace PropertyQuery

/-- Names that a category shares with a property; they mean the category. -/
def namesCategory (name : String) : Bool := ["cf", "sc", "lc"].contains name

/-- The names of scripts that no characters belong to. -/
def vacantScripts : List String := ["hrkt", "katakanaorhiragana", "zzzz", "unknown"]

/-- The characters behind a single name: a property, a category or a script. -/
def named (name : String) : Except Fault CharSet :=
  let name := looseName name
  let property := if namesCategory name then none else Character.Property.named? name
  match property.or (Character.Category.named? name) with
  | some s => .ok s
  | none =>
    match Character.Script.named? name with
    | some s => .ok s.set
    | none =>
      .error (if vacantScripts.contains name then .unknownPropertyValue else .unknownProperty)

/-- What a look-up of a value gives. -/
def orUnknownValue (s : Option CharSet) : Except Fault CharSet :=
  match s with
  | some s => .ok s
  | none => .error .unknownPropertyValue

/-- The values of the properties that a character has or has not. They are known as values, but
the property is not asked for in this way. -/
def isTruthName (value : String) : Bool :=
  ["y", "yes", "t", "true", "n", "no", "f", "false"].contains value

/-- The characters for which a property has a value. -/
def valued (name value : String) : Except Fault CharSet :=
  let name := looseName name
  let value := looseName value
  if ["gc", "generalcategory"].contains name then orUnknownValue (Character.Category.named? value)
  else if ["sc", "script"].contains name then
    orUnknownValue ((Character.Script.named? value).map Character.Script.set)
  else if ["scx", "scriptextensions"].contains name then
    orUnknownValue ((Character.Script.named? value).map Character.Script.extended)
  else
    match Character.Property.named? name with
    | some _ => .error (if isTruthName value then .unknownProperty else .unknownPropertyValue)
    | none => .error .unknownProperty

def meaning : PropertyQuery → Except Fault CharSet
  | .letter c => named (String.ofList [c])
  | .name n => named n
  | .value n v => valued n v

end PropertyQuery

/-- All bytes, as the code points with the same numbers. -/
def bytes : CharSet := ⟨[⟨0, 0xFF⟩]⟩

namespace Flags

/-- A set with the other case of its members, if case is ignored. -/
def fold (fs : Flags) (s : CharSet) : CharSet :=
  if !fs.caseless then s else if fs.unicode then s.foldCase else s.foldAsciiCase

/-- A set, or its complement if it is negated. Without the flag for Unicode the members are bytes,
and one outside ASCII would match a part of a character. -/
def negate (fs : Flags) (place : Stretch) (isNegated : Bool) (s : CharSet) :
    Except Refusal CharSet :=
  if fs.unicode then .ok (if isNegated then s.compl else s)
  else
    let s := if isNegated then bytes.diff s else s
    if s.isAscii then .ok s else refuse .invalidUtf8 place

/-- A set with the other case of its members added first, then its complement taken. -/
def foldAndNegate (fs : Flags) (place : Stretch) (isNegated : Bool) (s : CharSet) :
    Except Refusal CharSet :=
  fs.negate place isNegated (fs.fold s)

end Flags

def PropertyClass.meaning (fs : Flags) (p : PropertyClass) : Except Refusal CharSet :=
  if !fs.unicode then refuse .needsUnicode p.place
  else
    match p.query.meaning with
    | .error fault => refuse fault p.place
    | .ok s => fs.foldAndNegate p.place p.isNegated s

/-! ## Classes -/

/-- The characters of a named class. -/
def AsciiClass.set : AsciiClass → CharSet
  | .alnum => CharSet.ofTable "30-39 41-5A 61-7A"
  | .alpha => CharSet.ofTable "41-5A 61-7A"
  | .ascii => CharSet.ofTable "0-7F"
  | .blank => CharSet.ofTable "9 20"
  | .cntrl => CharSet.ofTable "0-1F 7F"
  | .digit => CharSet.ofTable "30-39"
  | .graph => CharSet.ofTable "21-7E"
  | .lower => CharSet.ofTable "61-7A"
  | .print => CharSet.ofTable "20-7E"
  | .punct => CharSet.ofTable "21-2F 3A-40 5B-60 7B-7E"
  | .space => CharSet.ofTable "9-D 20"
  | .upper => CharSet.ofTable "41-5A"
  | .word => CharSet.ofTable "30-39 41-5A 5F 61-7A"
  | .xdigit => CharSet.ofTable "30-39 41-46 61-66"

/-- The characters of a shorthand, of all scripts or of ASCII only. -/
def Shorthand.set (unicode : Bool) : Shorthand → CharSet
  | .digit => if unicode then Character.digit else AsciiClass.digit.set
  | .blank => if unicode then Character.blank else AsciiClass.space.set
  | .word => if unicode then Character.word else AsciiClass.word.set

/-- The characters of a shorthand; case is not looked at. -/
def ShorthandClass.meaning (fs : Flags) (s : ShorthandClass) : Except Refusal CharSet :=
  fs.negate s.place s.isNegated (s.kind.set fs.unicode)

/-- Without the flag for Unicode a byte outside ASCII would match a part of a character. -/
def Literal.checked (fs : Flags) (l : Literal) : Except Refusal Char :=
  if !fs.unicode && l.isByte && 0x80 ≤ l.char.toNat then refuse .invalidUtf8 l.place
  else .ok l.char

/-- A character of a class. -/
def Literal.inClass (fs : Flags) (l : Literal) : Except Refusal Char :=
  match l.checked fs with
  | .error r => .error r
  | .ok c => if !fs.unicode && 0x80 ≤ c.toNat then refuse .needsUnicode l.place else .ok c

def SetOperation.apply : SetOperation → CharSet → CharSet → CharSet
  | .intersection, s, t => s.inter t
  | .difference, s, t => s.diff t
  | .symmetricDifference, s, t => s.symmDiff t

mutual

/-- The characters of a class. -/
def Bracket.meaning (fs : Flags) : Bracket → Except Refusal CharSet
  | .nothing _ => .ok CharSet.empty
  | .literal l => (l.inClass fs).map CharSet.single
  | .range _ first last =>
    match first.inClass fs, last.inClass fs with
    | .error r, _ => .error r
    | _, .error r => .error r
    | .ok a, .ok b => .ok (CharSet.range a b)
  | .ascii place isNegated kind => fs.foldAndNegate place isNegated kind.set
  | .property p => p.meaning fs
  | .shorthand s => s.meaning fs
  | .bracketed place isNegated body =>
    match Bracket.meaning fs body with
    | .error r => .error r
    | .ok s => fs.foldAndNegate place isNegated s
  | .union _ items => Bracket.meaningOfAll fs items
  | .combined op left right =>
    match Bracket.meaning fs left with
    | .error r => .error r
    | .ok s =>
      match Bracket.meaning fs right with
      | .error r => .error r
      | .ok t => .ok (op.apply (fs.fold s) (fs.fold t))

/-- The characters of several classes together. -/
def Bracket.meaningOfAll (fs : Flags) : List Bracket → Except Refusal CharSet
  | [] => .ok CharSet.empty
  | item :: rest =>
    match Bracket.meaning fs item with
    | .error r => .error r
    | .ok s =>
      match Bracket.meaningOfAll fs rest with
      | .error r => .error r
      | .ok t => .ok (s.union t)

end

/-! ## Expressions -/

/-- The condition on a place that an anchor stands for. -/
def Anchor.meaning (fs : Flags) : Anchor → Boundary
  | .lineStart =>
    if !fs.multiline then .textStart else if fs.crlf then .crlfLineStart else .lineStart
  | .lineEnd => if !fs.multiline then .textEnd else if fs.crlf then .crlfLineEnd else .lineEnd
  | .textStart => .textStart
  | .textEnd => .textEnd
  | .word edge => .word edge (Shorthand.word.set fs.unicode)

/-- The characters that a dot stands for. -/
def Flags.dot (fs : Flags) (place : Stretch) : Except Refusal CharSet :=
  if !fs.unicode then refuse .invalidUtf8 place
  else if fs.dotAll then .ok CharSet.full
  else if fs.crlf then .ok ((CharSet.single '\n').union (CharSet.single '\r')).compl
  else .ok (CharSet.single '\n').compl

mutual

/-- The pattern of an expression, with the flags that hold behind it. Flags that a group changes
hold up to its end. -/
def Expression.meaning (fs : Flags) : Expression → Except Refusal (Pattern × Flags)
  | .empty => .ok (.empty, fs)
  | .flags changes => .ok (.empty, fs.changeAll changes)
  | .literal l => (l.checked fs).map fun c => (.oneOf (fs.fold (CharSet.single c)), fs)
  | .dot place => (fs.dot place).map fun s => (.oneOf s, fs)
  | .anchor _ a => .ok (.check (a.meaning fs), fs)
  | .property p => (p.meaning fs).map fun s => (.oneOf s, fs)
  | .shorthand s => (s.meaning fs).map fun s => (.oneOf s, fs)
  | .bracketed b => (b.meaning fs).map fun s => (.oneOf s, fs)
  | .repetition _ inner least most =>
    (Expression.meaning fs inner).map fun (p, fs) => (.times p least most, fs)
  | .group _ .capturing inner => (Expression.meaning fs inner).map fun (p, _) => (.group p, fs)
  | .group _ (.plain changes) inner =>
    (Expression.meaning (fs.changeAll changes) inner).map fun (p, _) => (p, fs)
  | .alternation _ branches =>
    (Expression.meaningOfAll fs branches).map fun (ps, fs) => (choice ps, fs)
  | .concat _ items =>
    (Expression.meaningOfAll fs items).map fun (ps, fs) => (sequence ps, fs)

/-- The patterns of several expressions; the flags behind one hold for the next. -/
def Expression.meaningOfAll (fs : Flags) : List Expression → Except Refusal (List Pattern × Flags)
  | [] => .ok ([], fs)
  | e :: rest =>
    match Expression.meaning fs e with
    | .error r => .error r
    | .ok (p, fs) =>
      match Expression.meaningOfAll fs rest with
      | .error r => .error r
      | .ok (ps, fs) => .ok (p :: ps, fs)

end

end Compliance.Pattern
