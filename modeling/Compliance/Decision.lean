import Compliance.Digest
import Compliance.Evaluation
import Compliance.Evidence.Document

/-!
# Compliance.Decision

Decisions on rules, and the records that keep them.

* `Decision`        — an outcome, when it was reached, and what it was computed from.
* `Rule.decide?`    — the decision on a rule.
* `Decision.verdict` — whether the rule holds, in a word.
* `Decision.document`, `Decision.toJson?` — the document of a decision.
* `Rule.digest`     — the digest of a rule's text.
* `record`          — a decision together with its rule.
-/

namespace Compliance

structure Decision where
  ruleId : Option String
  evaluatedAt : Instant
  outcome : Evidence
  provenance : Provenance

namespace Environment

/-- Is a function called that has no value at the instant? -/
def lacksValue (env : Environment) : Reference → Bool
  | .variable _ => false
  | .function name => env.functions.lacksValue name env.now

end Environment

/-- The decision on a rule. There is none if a function is called that has no value at the
instant. -/
def Rule.decide? (env : Environment) (rule : Rule) : Option Decision :=
  let (outcome, references) := rule.evaluate env
  if references.any env.lacksValue then none
  else some ⟨none, env.now, outcome, Provenance.ofReferences references⟩

/-- Whether the rule holds, in a word. -/
def Decision.verdict (d : Decision) : String := if d.outcome.result then "PASS" else "FAIL"

/-! ## Documents -/

def Provenance.toJson (p : Provenance) : Json :=
  .ofFields
    [("variables_used", .list (p.paths.map .text)),
     ("functions_used", .list (p.functions.map .text))]

/-- The document of a decision. There is none if an instant in it cannot be written. -/
def Decision.document (d : Decision) : Except Instant.Component Json := do
  return .ofPresent
    [("rule_id", d.ruleId.map .text),
     ("evaluated_at", some (.text (← d.evaluatedAt.written))),
     ("outcome", some (← d.outcome.document)),
     ("provenance", some d.provenance.toJson)]

def Decision.toJson? (d : Decision) : Option Json := d.document.toOption

/-! ## Records -/

/-- The digest of the canonical text: layout and comments do not change it. -/
def Rule.digest (r : Rule) : String := "sha256:" ++ Digest.hex r.render

/-- What stands in place of a decision of which some part cannot be written. -/
def unwritten (part : Instant.Component) : Json :=
  .ofFields [("error", .text ("serialization error: " ++ part.message))]

/-- A decision together with its rule and the version of this form. -/
def record (rule : Rule) (decision : Decision) : Json :=
  let shown := match decision.document with
    | .ok j => j
    | .error part => unwritten part
  .ofFields
    [("canon", .text "1.0"), ("rule", .text rule.render), ("rule_digest", .text rule.digest),
     ("decision", shown)]

end Compliance
