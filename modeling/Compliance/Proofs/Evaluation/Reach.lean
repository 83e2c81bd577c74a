import Compliance.Proofs.Decision
import Compliance.Proofs.Evaluation.Justification
import Compliance.Proofs.Provenance

/-!
# Compliance.Proofs.Evaluation.Reach

Which operands an evaluation reaches, and that the provenance of a decision lists just those.

* `Operand.reached`          — the operands of one test, up to the first one without a value.
* `Condition.reached`, `Consequence.reached`, `Rule.reached` — the operands of whole trees, from
  left to right.
* `Rule.noDecision_iff_reached` — there is no decision if a call without a value is reached.
* `Rule.provenance_reached`  — the provenance of a decision names what the evaluation reached.
-/

namespace Compliance

/-! ## What is reached -/

/-- The function that an operand calls. -/
def Operand.function? : Operand → Option String
  | .call name => some name
  | _ => none

/-- The operands of one test that are reached: all of them, or those up to and including the first
one that has no value. -/
def Operand.reached (env : Environment) : List Operand → List Operand
  | [] => []
  | o :: os => if (o.value env).isOk then o :: reached env os else [o]

/-- The operands of a condition that are reached, on both sides of every connective. -/
def Condition.reached (env : Environment) : Condition → List Operand
  | .logical left _ right => reached env left ++ reached env right
  | .negation inner => reached env inner
  | c => Operand.reached env c.operands

/-- The operands of a consequence that are reached, on both sides of every connective. -/
def Consequence.reached (env : Environment) : Consequence → List Operand
  | .logical left _ right => reached env left ++ reached env right
  | .negation inner => reached env inner
  | c => Operand.reached env c.operands

/-- The operands of a rule that are reached: those of the condition, and those of a consequence if
the condition holds. Nothing of an action is. -/
def Rule.reached (env : Environment) (r : Rule) : List Operand :=
  r.condition.reached env ++
    match r.body with
    | .consequence c => if (r.condition.evaluate env).1.result then c.reached env else []
    | .action _ => []

variable {env : Environment} {α β : Type}

/-! ## References -/

theorem Operand.paths_references (os : List Operand) :
    (os.flatMap Operand.references).filterMap Reference.path? = os.filterMap Operand.path? := by
  induction os with
  | nil => rfl
  | cons o os ih =>
    rw [List.flatMap_cons, List.filterMap_append, ih]
    cases o <;> rfl

theorem Operand.functions_references (os : List Operand) :
    (os.flatMap Operand.references).filterMap Reference.function? =
      os.filterMap Operand.function? := by
  induction os with
  | nil => rfl
  | cons o os ih =>
    rw [List.flatMap_cons, List.filterMap_append, ih]
    cases o <;> rfl

/-! ## Tests -/

/-- A reading whose references are those of the operands that it reaches. -/
def Reading.Reaches (env : Environment) (os : List Operand) (r : Reading α) : Prop :=
  r.references = (Operand.reached env os).flatMap Operand.references

namespace Reading

theorem Reaches.done (a : α) : Reaches env [] (Pure.pure a : Reading α) := rfl

/-- One more operand is fetched in front of a reading, which goes on if there is a value. -/
theorem Reaches.fetch (o : Operand) {os : List Operand} {next : Value → Reading α}
    (h : ∀ v, Reaches env os (next v)) : Reaches env (o :: os) (o.fetch env >>= next) := by
  cases hv : o.value env with
  | error f =>
    simp [Reaches, Operand.reached, Operand.fetch, Bind.bind, Reading.bind, hv, Except.isOk,
      Except.toBool]
  | ok v =>
    have hnext : (next v).references = _ := h v
    simp [Reaches, Operand.reached, Operand.fetch, Bind.bind, Reading.bind, hv, Except.isOk,
      Except.toBool, hnext]

theorem Reaches.map {os : List Operand} {r : Reading α} (h : Reaches env os r) (f : α → β) :
    Reaches env os (r >>= fun a => Pure.pure (f a)) := by
  obtain ⟨outcome, references⟩ := r
  cases outcome with
  | error e => exact h
  | ok a =>
    rw [Reaches] at h ⊢
    rw [← h]
    exact List.append_nil references

theorem Reaches.fetchAll (os : List Operand) : Reaches env os (Operand.fetchAll env os) := by
  induction os with
  | nil => exact .done []
  | cons o os ih => exact .fetch o fun v => ih.map (v :: ·)

/-- The evidence of a test has the references of its reading. -/
theorem Reaches.settle {os : List Operand} {r : Reading (Except Failure Bool × Details)}
    (h : Reaches env os r) (node : String) :
    (r.settle node).2 = (Operand.reached env os).flatMap Operand.references := by
  rw [Reading.settle]
  split <;> exact h

end Reading

theorem Demand.references_finding (demand : Demand) (operand : String) (o : Operand) :
    (demand.finding operand (o.fetch env)).2 =
      (Operand.reached env [o]).flatMap Operand.references := by
  have hreached : Operand.reached env [o] = [o] := by simp [Operand.reached]
  have hreferences : (demand.finding operand (o.fetch env)).2 = o.references := by
    rw [Demand.finding]
    split <;> rfl
  rw [hreferences, hreached, List.flatMap_singleton]

/-! ## Trees -/

open Reading (Reaches)

theorem Condition.references_evaluate (c : Condition) :
    (c.evaluate env).2 = (c.reached env).flatMap Operand.references := by
  induction c with
  | comparison left op right =>
    exact (Reaches.fetch left fun l => .fetch right fun r => .done _).settle _
  | membership value values =>
    exact (Reaches.fetch value fun v => (Reaches.fetchAll values).map _).settle _
  | textTest value op pattern =>
    exact (Reaches.fetch value fun v => .fetch pattern fun p => .done _).settle _
  | timeTest value op reference =>
    exact (Reaches.fetch value fun v => .fetch reference fun r => .done _).settle _
  | logical left op right ihl ihr =>
    rw [evaluate, Finding.combine, ihl, ihr, reached, List.flatMap_append]
  | negation inner ih => rw [evaluate, Finding.negate, ih, reached]
  | truthiness value => exact (Reaches.fetch value fun v => .done _).settle _

theorem Consequence.references_evaluate (c : Consequence) :
    (c.evaluate env).2 = (c.reached env).flatMap Operand.references := by
  induction c with
  | comparison left op right =>
    exact (Reaches.fetch left fun l => .fetch right fun r => .done _).settle _
  | membership value isNegated values =>
    exact (Reaches.fetch value fun v => (Reaches.fetchAll values).map _).settle _
  | range value lower upper =>
    exact (Reaches.fetch value fun v => .fetch lower fun lo => .fetch upper fun hi =>
      .done _).settle _
  | presence value demand => exact demand.references_finding _ value
  | logical left op right ihl ihr =>
    rw [evaluate, Finding.combine, ihl, ihr, reached, List.flatMap_append]
  | negation inner ih => rw [evaluate, Finding.negate, ih, reached]
  | literal b => rfl
  | truthiness value => exact (Reaches.fetch value fun v => .done _).settle _

theorem Rule.references_evaluate (r : Rule) :
    (r.evaluate env).2 = (r.reached env).flatMap Operand.references := by
  obtain ⟨c, body⟩ := r
  have hc := @Condition.references_evaluate env c
  cases hr : (c.evaluate env).1.result <;> cases body with
  | consequence k => simp [evaluate, reached, hr, hc, k.references_evaluate]
  | action a => simp [evaluate, reached, hr, hc]

/-! ## Decisions -/

/-- Is it a call of a function that has no value? -/
def Operand.lacksValue (env : Environment) (o : Operand) : Bool := o.references.any env.lacksValue

theorem Rule.noDecision_iff_reached {rule : Rule} :
    rule.decide? env = none ↔ ∃ o ∈ rule.reached env, o.lacksValue env = true := by
  rw [Rule.noDecision_iff, rule.references_evaluate]
  simp only [List.mem_flatMap, Operand.lacksValue, List.any_eq_true]
  constructor
  · rintro ⟨r, ⟨o, ho, hr⟩, hlacks⟩
    exact ⟨o, ho, r, hr, hlacks⟩
  · rintro ⟨o, ho, r, hr, hlacks⟩
    exact ⟨r, ⟨o, ho, hr⟩, hlacks⟩

theorem Rule.exists_reached {rule : Rule} {c : Consequence} (hbody : rule.body = .consequence c)
    (P : Operand → Prop) :
    (∃ o ∈ rule.reached env, P o) ↔ (∃ o ∈ rule.condition.reached env, P o) ∨
      (rule.condition.evaluate env).1.result = true ∧ ∃ o ∈ c.reached env, P o := by
  simp only [Rule.reached, hbody, List.mem_append, or_and_right, exists_or]
  cases (rule.condition.evaluate env).1.result <;> simp

/-- The provenance of a decision names the variables and the functions that the evaluation reached,
each one once and in the order of their first use. -/
theorem Rule.provenance_reached {rule : Rule} {d : Decision} (h : rule.decide? env = some d) :
    d.provenance.paths = ((rule.reached env).filterMap Operand.path?).eraseDups ∧
    d.provenance.functions = ((rule.reached env).filterMap Operand.function?).eraseDups := by
  rw [Rule.eq_of_decide? h, Provenance.paths_ofReferences, Provenance.functions_ofReferences,
    rule.references_evaluate, Operand.paths_references, Operand.functions_references]
  exact ⟨rfl, rfl⟩

/-- `a IN [LATER(), b] OR open`, where the call fails and keeps `b` from being reached, with two
sides of a consequence that use names a second time. -/
theorem Rule.provenance_reached_failing_call :
    ∃ d : Decision,
      Rule.decide? ⟨⟨[("open", .bool true)]⟩, Instant.epoch, FunctionTable.empty⟩
        ⟨.logical (.membership (.variable "a") [.call "LATER", .variable "b"]) .or
            (.truthiness (.variable "open")),
          .consequence (.logical (.comparison (.variable "open") .equal (.variable "a")) .and
            (.logical (.truthiness (.call "LATER")) .or (.presence (.variable "c") .required)))⟩ =
        some d ∧
      d.provenance.paths = ["a", "open", "c"] ∧ d.provenance.functions = ["LATER"] := by
  refine ⟨_, rfl, ?_⟩
  obtain ⟨hpaths, hfunctions⟩ := @Rule.provenance_reached
    ⟨⟨[("open", .bool true)]⟩, Instant.epoch, FunctionTable.empty⟩
    ⟨.logical (.membership (.variable "a") [.call "LATER", .variable "b"]) .or
        (.truthiness (.variable "open")),
      .consequence (.logical (.comparison (.variable "open") .equal (.variable "a")) .and
        (.logical (.truthiness (.call "LATER")) .or (.presence (.variable "c") .required)))⟩ _ rfl
  exact ⟨hpaths.trans (by decide), hfunctions.trans (by decide)⟩

end Compliance
