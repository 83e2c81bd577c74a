import Compliance.Decision

/-!
# Compliance.Proofs.Decision

When there is a decision on a rule, and what it consists of.

* `Rule.eq_of_decide?`  — a decision is made of the evaluation.
* `Rule.noDecision_iff` — there is none if a function is called that has no value.
-/

namespace Compliance

variable {env : Environment} {rule : Rule}

theorem Rule.eq_of_decide? {d : Decision} (h : rule.decide? env = some d) :
    d = ⟨none, env.now, (rule.evaluate env).1, .ofReferences (rule.evaluate env).2⟩ := by
  simp only [Rule.decide?] at h
  split at h
  · cases h
  · exact (Option.some.inj h).symm

theorem Rule.noDecision_iff :
    rule.decide? env = none ↔ ∃ r ∈ (rule.evaluate env).2, env.lacksValue r = true := by
  rw [← List.any_eq_true]
  simp only [Rule.decide?]
  split
  · rename_i h
    exact iff_of_true rfl h
  · rename_i h
    exact iff_of_false (Option.some_ne_none _) h

end Compliance
