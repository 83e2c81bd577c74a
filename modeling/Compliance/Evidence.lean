import Compliance.Failure

/-!
# Compliance.Evidence

What an evaluation looked at, node by node, with the result of each node.

* `Evidence`            — a node: its result, the reason, and what it is based on.
* `Details`             — what a node is based on.
* `Evidence.firstError` — the first failure in a tree, depth first and from left to right.
-/

namespace Compliance

/-- The action that a rule records. -/
structure ActionRecord where
  verb : Verb
  target : String
  label : String
deriving DecidableEq

mutual

/-- A node. A node that could not be evaluated has a failure and does not hold; `details` are
missing where an operand had no value. -/
inductive Evidence where
  | node (result : Bool) (reason : String) (error : Option Failure) (details : Details)

inductive Details where
  | missing
  | comparison (left : Value) (op : Comparison) (right : Value)
  | membership (value : Value) (isNegated : Bool) (values : List Value)
  | range (value lower upper : Value)
  | textTest (value : Value) (op : TextTest) (pattern : Value)
  | timeTest (value : Value) (op : TimeTest) (reference : Value) (now : Instant)
  | logical (left : Evidence) (op : Connective) (right : Evidence)
  | negation (inner : Evidence)
  | truthiness (operand : String) (value : Value)
  | presence (operand : String) (demand : Demand) (value : Value)
  | literal (b : Bool)
  /-- A rule whose condition does not hold. -/
  | notMet (condition : Evidence)
  /-- A rule whose condition holds, and its consequence. -/
  | demanded (condition consequence : Evidence)
  /-- A rule whose condition holds, and its action. -/
  | acted (condition : Evidence) (action : ActionRecord)

end

namespace Evidence

def result : Evidence → Bool
  | .node result _ _ _ => result

def reason : Evidence → String
  | .node _ reason _ _ => reason

/-- The failure of the node itself. -/
def error : Evidence → Option Failure
  | .node _ _ error _ => error

def details : Evidence → Details
  | .node _ _ _ details => details

mutual

/-- The first failure in a tree; that of a node counts before those below it. -/
def firstError : Evidence → Option Failure
  | .node _ _ (some e) _ => some e
  | .node _ _ none details => firstErrorIn details

def firstErrorIn : Details → Option Failure
  | .logical left _ right => (firstError left).or (firstError right)
  | .negation inner => firstError inner
  | .notMet condition => firstError condition
  | .demanded condition consequence => (firstError condition).or (firstError consequence)
  | .acted condition _ => firstError condition
  | _ => none

end

def hasError (e : Evidence) : Bool := e.firstError.isSome

/-! ## Nodes -/

/-- The reason of a node that was evaluated. -/
def verdict (node : String) (b : Bool) : String :=
  node ++ " evaluated to " ++ if b then "true" else "false"

/-- A node that could not be evaluated. -/
def failed (e : Failure) (details : Details) : Evidence :=
  .node false ("Evaluation error: " ++ e.message) (some e) details

/-- A node with a test and its outcome. -/
def settled (node : String) (outcome : Except Failure Bool) (details : Details) : Evidence :=
  match outcome with
  | .ok b => .node b (verdict node b) none details
  | .error e => failed e details

/-- Two nodes joined. Their failures stay with them. -/
def combined (node : String) (op : Connective) (left right : Evidence) : Evidence :=
  let b := op.holds left.result right.result
  .node b (verdict node b) none (.logical left op right)

/-- A node negated. What failed does not hold when negated, either. -/
def negated (node : String) (inner : Evidence) : Evidence :=
  let b := inner.error.isNone && !inner.result
  .node b (verdict node b) inner.error (.negation inner)

end Evidence

end Compliance
