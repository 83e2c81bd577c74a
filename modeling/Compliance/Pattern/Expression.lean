import Compliance.Pattern

/-!
# Compliance.Pattern.Expression

Regular expressions as they are written, with the stretch of text each part takes.

* `Stretch`      — a part of an expression's text.
* `Bracket`      — what stands in brackets: a class of characters.
* `Expression`   — an expression.
* `Fault`        — what can be wrong with an expression.
* `Refusal`      — a fault with its place.
-/

namespace Compliance.Pattern

/-- A part of a text, by the numbers of characters in front of its ends. -/
structure Stretch where
  start : Nat
  stop : Nat
deriving DecidableEq, Repr

namespace Stretch

/-- The empty part at a place. -/
def point (n : Nat) : Stretch := ⟨n, n⟩

/-- The one character behind a place. -/
def one (n : Nat) : Stretch := ⟨n, n + 1⟩

/-- From the start of one part to the end of another. -/
def through (a b : Stretch) : Stretch := ⟨a.start, b.stop⟩

end Stretch

/-- A single character. `isByte` holds for one that is written with two hexadecimal digits. -/
structure Literal where
  place : Stretch
  char : Char
  isByte : Bool
deriving DecidableEq, Repr

/-- The shorthands `\d`, `\s`, `\w`. -/
inductive Shorthand where
  | digit | blank | word
deriving DecidableEq, Repr

/-- The classes that are written `[:name:]`. -/
inductive AsciiClass where
  | alnum | alpha | ascii | blank | cntrl | digit | graph | lower | print | punct | space | upper
  | word | xdigit
deriving DecidableEq, Repr

/-- How a property of characters is asked for: by a letter, a name, or a name with a value. -/
inductive PropertyQuery where
  | letter (c : Char)
  | name (name : String)
  | value (name value : String)
deriving DecidableEq, Repr

structure PropertyClass where
  place : Stretch
  isNegated : Bool
  query : PropertyQuery
deriving DecidableEq, Repr

structure ShorthandClass where
  place : Stretch
  isNegated : Bool
  kind : Shorthand
deriving DecidableEq, Repr

inductive SetOperation where
  | intersection | difference | symmetricDifference
deriving DecidableEq, Repr

/-- A class of characters. -/
inductive Bracket where
  | nothing (place : Stretch)
  | literal (l : Literal)
  | range (place : Stretch) (first last : Literal)
  | ascii (place : Stretch) (isNegated : Bool) (kind : AsciiClass)
  | property (p : PropertyClass)
  | shorthand (s : ShorthandClass)
  | bracketed (place : Stretch) (isNegated : Bool) (body : Bracket)
  | union (place : Stretch) (items : List Bracket)
  | combined (op : SetOperation) (left right : Bracket)

namespace Bracket

/-- The text that a class takes. -/
def place : Bracket → Stretch
  | .nothing place => place
  | .literal l => l.place
  | .range place _ _ => place
  | .ascii place _ _ => place
  | .property p => p.place
  | .shorthand s => s.place
  | .bracketed place _ _ => place
  | .union place _ => place
  | .combined _ left right => left.place.through right.place

/-- Several classes taken together. Nothing at all is a class at the given place. -/
def ofItems (place : Nat) : List Bracket → Bracket
  | [] => .nothing (.point place)
  | [item] => item
  | first :: rest =>
    .union (first.place.through ((rest.getLast?.map Bracket.place).getD first.place))
      (first :: rest)

end Bracket

/-- The conditions on places. -/
inductive Anchor where
  | lineStart | lineEnd | textStart | textEnd
  | word (edge : WordEdge)
deriving DecidableEq, Repr

/-- The flags of a group. -/
inductive Flag where
  | caseless | multiline | dotAll | swapGreed | unicode | crlf | ignoreBlanks
deriving DecidableEq, Repr

/-- A flag that is set or cleared. -/
structure FlagChange where
  flag : Flag
  isSet : Bool
deriving DecidableEq, Repr

inductive GroupKind where
  | capturing
  | plain (flags : List FlagChange)
deriving DecidableEq, Repr

/-- A regular expression as it is written. -/
inductive Expression where
  | empty
  | flags (changes : List FlagChange)
  | literal (l : Literal)
  | dot (place : Stretch)
  | anchor (place : Stretch) (a : Anchor)
  | property (p : PropertyClass)
  | shorthand (s : ShorthandClass)
  | bracketed (b : Bracket)
  | repetition (place : Stretch) (inner : Expression) (least : Nat) (most : Option Nat)
  | group (place : Stretch) (kind : GroupKind) (inner : Expression)
  | alternation (place : Stretch) (branches : List Expression)
  | concat (place : Stretch) (items : List Expression)

namespace Expression

/-- The text that an expression takes; only expressions that can be repeated are asked for it. -/
def place : Expression → Stretch
  | .empty => .point 0
  | .flags _ => .point 0
  | .literal l => l.place
  | .dot place => place
  | .anchor place _ => place
  | .property p => p.place
  | .shorthand s => s.place
  | .bracketed b => b.place
  | .repetition place _ _ _ => place
  | .group place _ _ => place
  | .alternation place _ => place
  | .concat place _ => place

/-- Flags and the empty expression cannot be repeated. -/
def isRepeatable : Expression → Bool
  | .empty => false
  | .flags _ => false
  | _ => true

/-- Items one behind the other, in the given part of the text. -/
def ofItems (place : Stretch) : List Expression → Expression
  | [] => .empty
  | [item] => item
  | items => .concat place items

end Expression

/-- What can be wrong with an expression. -/
inductive Fault where
  -- Escapes.
  | escapeAtEnd | unknownEscape | backreference
  | hexDigit | hexEmpty | hexScalar
  | propertyLetter
  | wordEdgeAtEnd | wordEdgeUnclosed | wordEdgeUnknown
  -- Classes.
  | classUnclosed | classEscape | classRange | classRangeEnd
  -- Groups and flags.
  | groupUnclosed | groupUnopened | lookAround
  | nameAtEnd | nameCharacter | nameEmpty | nameTwice
  | flagAtEnd | flagUnknown | flagTwice | negationTwice | negationDangling
  -- Repetitions.
  | nothingToRepeat | countUnclosed | countEmpty | countTooLarge | countRange
  -- The whole expression.
  | tooDeep
  | needsUnicode | invalidUtf8 | unknownProperty | unknownPropertyValue
deriving DecidableEq, Repr

/-- How deep groups and brackets may nest. -/
def depthLimit : Nat := 250

def Fault.message : Fault → String
  | .escapeAtEnd => "incomplete escape sequence, reached end of pattern prematurely"
  | .unknownEscape => "unrecognized escape sequence"
  | .backreference => "backreferences are not supported"
  | .hexDigit => "invalid hexadecimal digit"
  | .hexEmpty => "hexadecimal literal empty"
  | .hexScalar => "hexadecimal literal is not a Unicode scalar value"
  | .propertyLetter => "invalid Unicode character class"
  | .wordEdgeAtEnd => "found either the beginning of a special word boundary or a bounded " ++
      "repetition on a \\b with an opening brace, but no closing brace"
  | .wordEdgeUnclosed =>
    "special word boundary assertion is either unclosed or contains an invalid character"
  | .wordEdgeUnknown => "unrecognized special word boundary assertion, " ++
      "valid choices are: start, end, start-half or end-half"
  | .classUnclosed => "unclosed character class"
  | .classEscape => "invalid escape sequence found in character class"
  | .classRange => "invalid character class range, the start must be <= the end"
  | .classRangeEnd => "invalid range boundary, must be a literal"
  | .groupUnclosed => "unclosed group"
  | .groupUnopened => "unopened group"
  | .lookAround => "look-around, including look-ahead and look-behind, is not supported"
  | .nameAtEnd => "unclosed capture group name"
  | .nameCharacter => "invalid capture group character"
  | .nameEmpty => "empty capture group name"
  | .nameTwice => "duplicate capture group name"
  | .flagAtEnd => "expected flag but got end of regex"
  | .flagUnknown => "unrecognized flag"
  | .flagTwice => "duplicate flag"
  | .negationTwice => "flag negation operator repeated"
  | .negationDangling => "dangling flag negation operator"
  | .nothingToRepeat => "repetition operator missing expression"
  | .countUnclosed => "unclosed counted repetition"
  | .countEmpty => "repetition quantifier expects a valid decimal"
  | .countTooLarge => "decimal literal invalid"
  | .countRange => "invalid repetition count range, the start must be <= the end"
  | .tooDeep => "exceed the maximum number of nested parentheses/brackets (" ++
      toString depthLimit ++ ")"
  | .needsUnicode => "Unicode not allowed here"
  | .invalidUtf8 => "pattern can match invalid UTF-8"
  | .unknownProperty => "Unicode property not found"
  | .unknownPropertyValue => "Unicode property value not found"

/-- A fault at a place; `first` is the place it clashes with, if there is one. -/
structure Refusal where
  fault : Fault
  place : Stretch
  first : Option Stretch
deriving DecidableEq, Repr

/-- Refuses an expression because of a fault at a place. -/
def refuse {α : Type} (fault : Fault) (place : Stretch) : Except Refusal α :=
  .error ⟨fault, place, none⟩

end Compliance.Pattern
