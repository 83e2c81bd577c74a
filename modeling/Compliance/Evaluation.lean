import Compliance.Context
import Compliance.Evidence
import Compliance.Functions
import Compliance.Provenance
import Compliance.Rule.Text
import Compliance.Value.Test

/-!
# Compliance.Evaluation

How rules are evaluated.

* `Environment`          — the data, the instant and the functions.
* `Reading`              — operands that are fetched, with the references this takes.
* `Condition.evaluate`   — the evidence for a condition.
* `Consequence.evaluate` — the evidence for a consequence.
* `Rule.evaluate`        — the evidence for a rule.

Both sides of a connective are always evaluated, so that the evidence is complete.
-/

namespace Compliance

/-- What a rule is evaluated with. -/
structure Environment where
  context : Context
  now : Instant
  functions : FunctionTable

/-! ## Operands -/

/-- A value, or the failure to get one, and the references made on the way. -/
structure Reading (α : Type) where
  outcome : Except Failure α
  references : List Reference

namespace Reading

def pure {α : Type} (a : α) : Reading α := ⟨.ok a, []⟩

/-- Reads on with a value. After a failure nothing more is read. -/
def bind {α β : Type} (r : Reading α) (next : α → Reading β) : Reading β :=
  match r.outcome with
  | .error e => ⟨.error e, r.references⟩
  | .ok a => ⟨(next a).outcome, r.references ++ (next a).references⟩

instance : Monad Reading where
  pure := pure
  bind := bind

end Reading

/-- The reference that an operand makes. -/
def Operand.references : Operand → List Reference
  | .variable path => [.variable path]
  | .call name => [.function name]
  | _ => []

/-- The value of an operand. Missing data is null. -/
def Operand.value (env : Environment) : Operand → Except Failure Value
  | .variable path => .ok (env.context.resolve path)
  | .text s => .ok (.text s)
  | .number d => .ok (.number d)
  | .bool b => .ok (.bool b)
  | .instant t => .ok (.instant t)
  | .span amount unit =>
    match unit.span? amount with
    | some s => .ok (.span s)
    | none => .error (.overflow (.span amount unit))
  | .null => .ok .null
  | .call name => env.functions.call name env.now

/-- Fetches one operand. A reference counts even if it fails. -/
def Operand.fetch (env : Environment) (o : Operand) : Reading Value :=
  ⟨o.value env, o.references⟩

/-- Fetches operands from left to right. -/
def Operand.fetchAll (env : Environment) : List Operand → Reading (List Value)
  | [] => pure []
  | o :: rest => do
    let v ← o.fetch env
    let vs ← fetchAll env rest
    pure (v :: vs)

/-! ## Conditions and consequences -/

/-- Evidence, and the references made to get it. -/
abbrev Finding := Evidence × List Reference

/-- The evidence of a test: what came out and what it is based on. If an operand has no value, that
is all there is to show. -/
def Reading.settle (r : Reading (Except Failure Bool × Details)) (node : String) : Finding :=
  match r.outcome with
  | .error e => (Evidence.failed e .missing, r.references)
  | .ok (outcome, details) => (Evidence.settled node outcome details, r.references)

/-- Two findings joined. -/
def Finding.combine (node : String) (op : Connective) (left right : Finding) : Finding :=
  (Evidence.combined node op left.1 right.1, left.2 ++ right.2)

/-- A finding negated. -/
def Finding.negate (node : String) (inner : Finding) : Finding :=
  (Evidence.negated node inner.1, inner.2)

def Condition.evaluate (env : Environment) : Condition → Finding
  | .comparison left op right =>
    Reading.settle (do
      let l ← left.fetch env
      let r ← right.fetch env
      pure (l.compare op r, .comparison l op r)) (Condition.comparison left op right).render
  | .membership value values =>
    Reading.settle (do
      let v ← value.fetch env
      let vs ← Operand.fetchAll env values
      pure (.ok (v.isMember vs), .membership v false vs)) (Condition.membership value values).render
  | .textTest value op pattern =>
    Reading.settle (do
      let v ← value.fetch env
      let p ← pattern.fetch env
      pure (v.textTest op p, .textTest v op p)) (Condition.textTest value op pattern).render
  | .timeTest value op reference =>
    Reading.settle (do
      let v ← value.fetch env
      let r ← reference.fetch env
      pure (v.timeTest op r env.now, .timeTest v op r env.now))
      (Condition.timeTest value op reference).render
  | .logical left op right =>
    Finding.combine (Condition.logical left op right).render op (left.evaluate env)
      (right.evaluate env)
  | .negation inner => Finding.negate (Condition.negation inner).render (inner.evaluate env)
  | .truthiness value =>
    Reading.settle (do
      let v ← value.fetch env
      pure (.ok v.isTruthy, .truthiness value.render v)) (Condition.truthiness value).render

/-- What a demand for a value comes to. A recommendation is never violated. -/
def Demand.isMet (demand : Demand) (isPresent : Bool) : Bool :=
  isPresent || demand == .recommended

/-- The wording of what a demand comes to. -/
def Demand.reason (demand : Demand) (operand : String) (isPresent : Bool) : String :=
  if isPresent then operand ++ " is present"
  else
    match demand with
    | .required => operand ++ " is required but missing"
    | .recommended => operand ++ " is recommended but missing (advisory)"

/-- The evidence of a demand for a value. -/
def Demand.finding (demand : Demand) (operand : String) (r : Reading Value) : Finding :=
  match r.outcome with
  | .error e => (Evidence.failed e .missing, r.references)
  | .ok v =>
    (.node (demand.isMet !v.isNull) (demand.reason operand !v.isNull) none
      (.presence operand demand v), r.references)

def Consequence.evaluate (env : Environment) : Consequence → Finding
  | .comparison left op right =>
    Reading.settle (do
      let l ← left.fetch env
      let r ← right.fetch env
      pure (l.compare op r, .comparison l op r)) (Consequence.comparison left op right).render
  | .membership value isNegated values =>
    Reading.settle (do
      let v ← value.fetch env
      let vs ← Operand.fetchAll env values
      pure (.ok (v.isMember vs != isNegated), .membership v isNegated vs))
      (Consequence.membership value isNegated values).render
  | .range value lower upper =>
    Reading.settle (do
      let v ← value.fetch env
      let lo ← lower.fetch env
      let hi ← upper.fetch env
      pure (v.between lo hi, .range v lo hi)) (Consequence.range value lower upper).render
  | .presence value demand => demand.finding value.render (value.fetch env)
  | .logical left op right =>
    Finding.combine (Consequence.logical left op right).render op (left.evaluate env)
      (right.evaluate env)
  | .negation inner => Finding.negate (Consequence.negation inner).render (inner.evaluate env)
  | .literal b => (Evidence.settled (Consequence.literal b).render (.ok b) (.literal b), [])
  | .truthiness value =>
    Reading.settle (do
      let v ← value.fetch env
      pure (.ok v.isTruthy, .truthiness value.render v)) (Consequence.truthiness value).render

/-! ## Rules -/

/-- The evidence for a rule. If the condition does not hold the rule is kept; a failure in the
condition, or in the consequence, becomes that of the rule. -/
def Rule.evaluate (env : Environment) (rule : Rule) : Finding :=
  let (condition, references) := rule.condition.evaluate env
  if !condition.result then
    (.node true "Condition not met" condition.firstError (.notMet condition), references)
  else
    match rule.body with
    | .consequence c =>
      let (consequence, more) := c.evaluate env
      let reason := if consequence.result then "Condition met and consequence satisfied"
        else "Consequence violated: " ++ c.render
      (.node consequence.result reason consequence.firstError (.demanded condition consequence),
        references ++ more)
    | .action a =>
      (.node true ("Action executed: " ++ a.verb.keyword) none
        (.acted condition ⟨a.verb, a.target.render, a.label⟩), references)

end Compliance
