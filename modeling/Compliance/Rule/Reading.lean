import Compliance.Rule.Connectives
import Compliance.Token.Scanning

/-!
# Compliance.Rule.Reading

Rules from text.

* `Operand.read`      — an operand: a literal, a call or a path.
* `Condition.read`    — an expression over the tests of a condition.
* `Consequence.read`  — an expression over the demands of a consequence.
* `Action.read`       — a verb, its target and a label.
* `Rule.parse`        — a whole text as one rule. The diagnostic stands at the first token that
  no rule can have there.
-/

namespace Compliance

open Tokens

/-! ## Operands -/

/-- The words that are never names. -/
def reservedWords : List String :=
  ["WHEN", "THEN", "MUST", "AND", "OR", "NOT", "IN", "LIKE", "CONTAINS", "MATCHES", "BEFORE",
    "AFTER", "WITHIN", "EXPIRES", "BETWEEN", "REQUIRE", "RECOMMEND"]

def isReserved (w : String) : Bool := reservedWords.contains w

/-- Are two texts equal but for the case of their ASCII letters? -/
def equalIgnoringCase (s t : String) : Bool :=
  s.toList.map Char.toLower == t.toList.map Char.toLower

/-- A quoted instant in UTC is an instant, any other quoted text a text. -/
def Operand.ofQuoted (s : String) : Operand :=
  if s.toList.getLast? == some 'Z' then
    match Instant.ofRfc3339? s.toList with
    | some t => .instant t
    | none => .text s
  else .text s

/-- The unit that stands next. -/
def nextUnit? (ts : Tokens) : Option SpanUnit :=
  match ts.next with
  | .word w => SpanUnit.ofKeyword? w
  | _ => none

/-- Reads what the number `n`, in front of `rest`, belongs to: a span where a unit follows. -/
def Operand.readNumber (n : String) (ts rest : Tokens) : Except Diagnostic (Operand × Tokens) :=
  match Decimal.ofPlain? n.toList with
  | .error cause => ts.refuse (.badNumber n cause)
  | .ok d =>
    match nextUnit? rest with
    | none => .ok (.number d, rest)
    | some unit =>
      match (Text.intOfText? n.toList).filter Text.fitsInt64 with
      | none => rest.refuse (.fractionalSpan n)
      | some amount => .ok (.span amount unit, rest.skip)

/-- Reads what the word `w`, in front of `rest`, belongs to. `NOW` and `TODAY` are calls also
without parentheses. -/
def Operand.readWord (w : String) (ts rest : Tokens) : Except Diagnostic (Operand × Tokens) :=
  if isReserved w then ts.refuse (.keywordAsValue w)
  else if equalIgnoringCase w "true" then .ok (.bool true, rest)
  else if equalIgnoringCase w "false" then .ok (.bool false, rest)
  else if equalIgnoringCase w "null" then .ok (.null, rest)
  else if rest.next == .leftParen then
    if w.toList.contains '.' then rest.refuse (.dottedFunction w)
    else if rest.skip.next == .rightParen then .ok (.call w, rest.skip.skip)
    else rest.skip.refuse (.unclosedCall rest.skip.next)
  else if w == "NOW" || w == "TODAY" then .ok (.call w, rest)
  else .ok (.variable w, rest)

def Operand.read (ts : Tokens) : Except Diagnostic (Operand × Tokens) :=
  match ts.next with
  | .text s => .ok (Operand.ofQuoted s, ts.skip)
  | .number n => Operand.readNumber n ts ts.skip
  | .instant t =>
    match Instant.ofText? t.toList with
    | some i => .ok (.instant i, ts.skip)
    | none => ts.refuse (.badInstant t)
  | .word w => Operand.readWord w ts ts.skip
  | got => ts.refuse (.expectedValue got)

/-- Reads operands with commas between them, up to the closing bracket. The number bounds how
many there are. -/
def Operand.readMore : Nat → Tokens → Except Diagnostic (List Operand × Tokens)
  | 0, ts => ts.refuse (.expectedListEnd ts.next)
  | fuel + 1, ts =>
    match Operand.read ts with
    | .error d => .error d
    | .ok (v, rest) =>
      match rest.next with
      | .comma =>
        match readMore fuel rest.skip with
        | .error d => .error d
        | .ok (vs, rest) => .ok (v :: vs, rest)
      | .rightBracket => .ok ([v], rest.skip)
      | got => rest.refuse (.expectedListEnd got)

/-- Reads operands in brackets; there may be none. -/
def Operand.readList (ts : Tokens) : Except Diagnostic (List Operand × Tokens) :=
  if ts.next == .leftBracket then
    if ts.skip.next == .rightBracket then .ok ([], ts.skip.skip)
    else Operand.readMore ts.length ts.skip
  else ts.refuse (.expectedListStart ts.next)

/-- Reads a span. -/
def Operand.readSpan (ts : Tokens) : Except Diagnostic (Operand × Tokens) :=
  match Operand.read ts with
  | .error d => .error d
  | .ok (.span amount unit, rest) => .ok (.span amount unit, rest)
  | .ok (v, rest) => rest.refuse (.expectedSpan v)

/-! ## Conditions -/

/-- The comparison that a token stands for. -/
def Comparison.ofToken? : Token → Option Comparison
  | .equal => some .equal
  | .notEqual => some .notEqual
  | .greater => some .greater
  | .greaterEqual => some .greaterEqual
  | .less => some .less
  | .lessEqual => some .lessEqual
  | .word "LIKE" => some .like
  | _ => none

/-- Reads the right-hand side of a test and joins it. -/
def andThen {α β : Type} (read : Tokens → Except Diagnostic (β × Tokens)) (join : β → α)
    (ts : Tokens) : Except Diagnostic (α × Tokens) :=
  match read ts with
  | .error d => .error d
  | .ok (b, rest) => .ok (join b, rest)

/-- Reads what follows the first operand of a test. -/
def Condition.readTestBehind (left : Operand) (ts : Tokens) :
    Except Diagnostic (Condition × Tokens) :=
  match Comparison.ofToken? ts.next with
  | some op => andThen Operand.read (.comparison left op) ts.skip
  | none =>
    match ts.next with
    | .word "IN" => andThen Operand.readList (.membership left) ts.skip
    | .word "NOT" =>
      if ts.skip.startsWith "IN" then
        andThen Operand.readList (fun vs => .negation (.membership left vs)) ts.skip.skip
      else .ok (.truthiness left, ts)
    | .word "CONTAINS" => andThen Operand.read (.textTest left .contains) ts.skip
    | .word "MATCHES" => andThen Operand.read (.textTest left .matching) ts.skip
    | .word "BEFORE" => andThen Operand.read (.timeTest left .before) ts.skip
    | .word "AFTER" => andThen Operand.read (.timeTest left .after) ts.skip
    | .word "WITHIN" => andThen Operand.readSpan (.timeTest left .within) ts.skip
    | .word "EXPIRES" =>
      match ts.skip.expectWord "AFTER" with
      | .error d => .error d
      | .ok rest => andThen Operand.readSpan (.timeTest left .expires) rest
    | _ => .ok (.truthiness left, ts)

def Condition.readTest (ts : Tokens) : Except Diagnostic (Condition × Tokens) :=
  match Operand.read ts with
  | .error d => .error d
  | .ok (left, rest) => Condition.readTestBehind left rest

def Condition.connectives : Connectives Condition where
  readTest := Condition.readTest
  negation := .negation
  logical := .logical

def Condition.read (ts : Tokens) : Except Diagnostic (Condition × Tokens) :=
  Condition.connectives.read ts

/-! ## Consequences -/

/-- Reads the two bounds of a range, with `AND` between them. -/
def Consequence.readRange (value : Operand) (ts : Tokens) :
    Except Diagnostic (Consequence × Tokens) :=
  match Operand.read ts with
  | .error d => .error d
  | .ok (lower, rest) =>
    match rest.expectWord "AND" with
    | .error d => .error d
    | .ok rest => andThen Operand.read (.range value lower) rest

/-- Reads what follows the first operand of a demand. A truth value or a variable may stand
alone. -/
def Consequence.readTestBehind (left : Operand) (ts : Tokens) :
    Except Diagnostic (Consequence × Tokens) :=
  match Comparison.ofToken? ts.next with
  | some op => andThen Operand.read (.comparison left op) ts.skip
  | none =>
    if ts.startsWith "IN" then andThen Operand.readList (.membership left false) ts.skip
    else if ts.startsWith "NOT" && ts.skip.startsWith "IN" then
      andThen Operand.readList (.membership left true) ts.skip.skip
    else if ts.startsWith "BETWEEN" then Consequence.readRange left ts.skip
    else
      match left with
      | .bool b => .ok (.literal b, ts)
      | .variable path => .ok (.truthiness (.variable path), ts)
      | v => ts.refuse (.expectedConstraint v ts.next)

/-- Reads the variable that a demand for presence names. -/
def Consequence.readPresence (demand : Demand) (ts : Tokens) :
    Except Diagnostic (Consequence × Tokens) :=
  match Operand.read ts with
  | .error d => .error d
  | .ok (.variable path, rest) => .ok (.presence (.variable path) demand, rest)
  | .ok (v, rest) => rest.refuse (.demandNeedsVariable v)

def Consequence.readTest (ts : Tokens) : Except Diagnostic (Consequence × Tokens) :=
  if ts.startsWith "REQUIRE" then Consequence.readPresence .required ts.skip
  else if ts.startsWith "RECOMMEND" then Consequence.readPresence .recommended ts.skip
  else
    match Operand.read ts with
    | .error d => .error d
    | .ok (left, rest) => Consequence.readTestBehind left rest

def Consequence.connectives : Connectives Consequence where
  readTest := Consequence.readTest
  negation := .negation
  logical := .logical

def Consequence.read (ts : Tokens) : Except Diagnostic (Consequence × Tokens) :=
  Consequence.connectives.read ts

/-! ## Actions and rules -/

/-- Reads the label of an action: a word that is not reserved, or a text. -/
def Action.readLabel (verb : Verb) (ts : Tokens) : Except Diagnostic (String × Tokens) :=
  match ts.next with
  | .word w => if isReserved w then ts.refuse (.expectedLabel verb (.word w)) else .ok (w, ts.skip)
  | .text s => .ok (s, ts.skip)
  | got => ts.refuse (.expectedLabel verb got)

/-- Reads the target and the label of an action, behind its verb. -/
def Action.read (verb : Verb) (ts : Tokens) : Except Diagnostic (Action × Tokens) :=
  match Operand.read ts with
  | .error d => .error d
  | .ok (.variable path, rest) => andThen (Action.readLabel verb) (⟨verb, .variable path, ·⟩) rest
  | .ok (v, rest) => rest.refuse (.targetNeedsVariable verb v)

/-- The verb that stands next. A verb starts an action only in front of another word. -/
def nextVerb? (ts : Tokens) : Option Verb :=
  match ts.next, ts.skip.next with
  | .word verb, .word _ => Verb.ofKeyword? verb
  | _, _ => none

def Rule.Body.read (ts : Tokens) : Except Diagnostic (Rule.Body × Tokens) :=
  match nextVerb? ts with
  | some verb => andThen (Action.read verb) .action ts.skip
  | none => andThen Consequence.read .consequence ts

/-- Reads all tokens as one rule. -/
def Rule.read (ts : Tokens) : Except Diagnostic Rule := do
  if ts.next == .endOfInput then ts.refuse .emptyRule
  else
    let ts ← ts.expectWord "WHEN"
    let (condition, ts) ← Condition.read ts
    let ts ← ts.expectWord "THEN"
    let ts ← ts.expectWord "MUST"
    if ts.next == .endOfInput then ts.refuse .missingBody
    else
      let (body, ts) ← Rule.Body.read ts
      if ts.next == .endOfInput then .ok ⟨condition, body⟩
      else ts.refuse (.trailingToken ts.next)

/-- Reads a whole text as one rule. -/
def Rule.parse (source : String) : Except Diagnostic Rule := do
  let ts ← Token.scan source
  Rule.read ts

end Compliance
