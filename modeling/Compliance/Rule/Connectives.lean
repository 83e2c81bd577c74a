import Compliance.Diagnostic

/-!
# Compliance.Rule.Connectives

Expressions built with `NOT`, `AND`, `OR` and parentheses, over tests of any kind. `NOT` binds
tighter than `AND`, `AND` tighter than `OR`; both associate to the left.

* `Tokens`             — the tokens that are still to be read.
* `Connectives`        — the tests of an expression, and how to join them.
* `Connectives.read`   — reads an expression as far as it goes.
-/

namespace Compliance

/-- The tokens that are still to be read. The last one is the end of input. -/
abbrev Tokens := List PlacedToken

namespace Tokens

/-- The next token with its position. -/
def peek (ts : Tokens) : PlacedToken := ts.headD ⟨.endOfInput, Position.start⟩

def next (ts : Tokens) : Token := ts.peek.token

/-- What stands behind the next token. -/
def skip (ts : Tokens) : Tokens := List.tail ts

/-- Is the next token a given word? -/
def startsWith (w : String) (ts : Tokens) : Bool := ts.next == .word w

/-- A fault at the next token. -/
def refuse {α : Type} (ts : Tokens) (fault : Fault) : Except Diagnostic α :=
  .error ⟨ts.peek.position, fault⟩

/-- Reads one given word. -/
def expectWord (w : String) (ts : Tokens) : Except Diagnostic Tokens :=
  if ts.startsWith w then .ok ts.skip else ts.refuse (.expectedWord w ts.next)

end Tokens

/-- What an expression consists of: how a single test is read, and how expressions are joined. -/
structure Connectives (α : Type) where
  readTest : Tokens → Except Diagnostic (α × Tokens)
  negation : α → α
  logical : α → Connective → α → α

namespace Connectives

variable {α : Type}

/-- Reads further items behind `left`, as long as the connective's word stands in front of them.
The number bounds how many are read. -/
def readMore (k : Connectives α) (op : Connective)
    (item : Tokens → Except Diagnostic (α × Tokens)) :
    Nat → α → Tokens → Except Diagnostic (α × Tokens)
  | 0, left, ts => .ok (left, ts)
  | fuel + 1, left, ts =>
    if ts.startsWith op.keyword then
      match item ts.skip with
      | .error d => .error d
      | .ok (right, rest) => readMore k op item fuel (k.logical left op right) rest
    else .ok (left, ts)

/-- Reads items with the connective's word between them. -/
def readChain (k : Connectives α) (op : Connective)
    (item : Tokens → Except Diagnostic (α × Tokens)) (ts : Tokens) :
    Except Diagnostic (α × Tokens) :=
  match item ts with
  | .error d => .error d
  | .ok (left, rest) => k.readMore op item rest.length left rest

/-- Reads conjunctions with `OR` between them. -/
def readDisjunction (k : Connectives α) (unary : Tokens → Except Diagnostic (α × Tokens))
    (ts : Tokens) : Except Diagnostic (α × Tokens) :=
  k.readChain .or (k.readChain .and unary) ts

/-- Reads a test, a negation or an expression in parentheses. The number bounds how deep
negations and parentheses nest. -/
def readUnary (k : Connectives α) : Nat → Tokens → Except Diagnostic (α × Tokens)
  | 0, ts => k.readTest ts
  | depth + 1, ts =>
    if ts.startsWith "NOT" then
      match readUnary k depth ts.skip with
      | .error d => .error d
      | .ok (inner, rest) => .ok (k.negation inner, rest)
    else if ts.next == .leftParen then
      match k.readDisjunction (readUnary k depth) ts.skip with
      | .error d => .error d
      | .ok (inner, rest) =>
        if rest.next == .rightParen then .ok (inner, rest.skip)
        else rest.refuse (.unclosedParen rest.next)
    else k.readTest ts

/-- Reads an expression as far as it goes. Each level of nesting takes a token, so the number of
tokens bounds the depth. -/
def read (k : Connectives α) (ts : Tokens) : Except Diagnostic (α × Tokens) :=
  k.readDisjunction (k.readUnary ts.length) ts

end Connectives

end Compliance
