import Compliance.Proofs.Evaluation.Errors
import Compliance.Proofs.Evaluation.Range
import Compliance.Proofs.Evaluation.Reach

/-!
# Compliance.Proofs.Evaluation.Bounds

Ranges, and the comparisons with their two bounds.

* `Consequence.bounds`             — a range, written as two comparisons.
* `Evidence.Answers`               — the result of a tree that has no error.
* `Consequence.answers_range`, `Consequence.answers_bounds` — both have the same answer.
* `Consequence.mem_reached_bounds` — the comparisons may come to one operand more.
* `Consequence.range_agrees_bounds` — when the one can stand in place of the other.
-/

namespace Compliance

variable {env : Environment}

/-- A range, written as two comparisons. -/
def Consequence.bounds (value lower upper : Operand) : Consequence :=
  .logical (.comparison value .greaterEqual lower) .and (.comparison value .lessEqual upper)

/-! ## Values -/

/-- Both bounds are compared with, unless the lower one fails. -/
theorem Value.between_eq (v lower upper : Value) :
    between v lower upper = (do
      let fromBelow ← v.compare .greaterEqual lower
      let fromAbove ← v.compare .lessEqual upper
      pure (fromBelow && fromAbove)) := by
  simp only [between, compare, ordered]
  cases order v lower with
  | error e => rfl
  | ok fromBelow =>
    cases order v upper with
    | error e => rfl
    | ok fromAbove => rfl

/-! ## Answers -/

/-- A tree has a result and no error, or an error and does not hold. -/
structure Evidence.Answers (e : Evidence) (answer : Option Bool) : Prop where
  result : e.result = answer.getD false
  hasError : e.hasError = answer.isNone

theorem Reading.outcome_bind {α β : Type} (r : Reading α) (next : α → Reading β) :
    (r >>= next).outcome = r.outcome >>= fun a => (next a).outcome := by
  obtain ⟨outcome, references⟩ := r
  cases outcome <;> rfl

/-- The answer of a test is what becomes of its values. -/
theorem Reading.answers_settle {r : Reading (Except Failure Bool × Details)} {node : String}
    (hbelow : Evidence.firstErrorIn (r.settle node).1.details = none) :
    (r.settle node).1.Answers (r.outcome >>= Prod.fst).toOption := by
  have herror := Evidence.error_eq_firstError hbelow
  obtain ⟨outcome, references⟩ := r
  cases outcome with
  | error e => exact ⟨rfl, rfl⟩
  | ok test =>
    obtain ⟨outcome, details⟩ := test
    cases outcome with
    | error e => exact ⟨rfl, rfl⟩
    | ok b => exact ⟨rfl, by rw [Evidence.hasError, ← herror]; rfl⟩

/-- Under `AND`, both sides have to have an answer. -/
theorem Evidence.Answers.and {left right : Evidence} {a b : Option Bool} (hl : left.Answers a)
    (hr : right.Answers b) (node : String) :
    (combined node .and left right).Answers (do let a ← a; let b ← b; pure (a && b)) := by
  have hresult : (combined node .and left right).result = (left.result && right.result) := rfl
  have herror : (combined node .and left right).hasError = (left.hasError || right.hasError) :=
    Option.isSome_or
  constructor
  · rw [hresult, hl.result, hr.result]
    cases a with
    | none => rfl
    | some a => cases b <;> simp
  · rw [herror, hl.hasError, hr.hasError]
    cases a <;> cases b <;> rfl

namespace Operand

/-- What a comparison comes to, if its operands have values that are ordered. -/
def compare? (env : Environment) (left : Operand) (op : Comparison) (right : Operand) :
    Option Bool :=
  Except.toOption do
    let l ← left.value env
    let r ← right.value env
    l.compare op r

/-- What a range comes to, if its operands have values that are ordered. -/
def between? (env : Environment) (value lower upper : Operand) : Option Bool :=
  Except.toOption do
    let v ← value.value env
    let lo ← lower.value env
    let hi ← upper.value env
    v.between lo hi

/-- It does not matter which failure comes first, where there are several. -/
theorem between?_eq (value lower upper : Operand) :
    between? env value lower upper = (do
      let a ← compare? env value .greaterEqual lower
      let b ← compare? env value .lessEqual upper
      pure (a && b)) := by
  simp only [between?, compare?, Value.between_eq]
  cases value.value env with
  | error e => rfl
  | ok v =>
    cases lower.value env with
    | error e => rfl
    | ok lo =>
      cases upper.value env with
      | error e =>
        show none = (v.compare .greaterEqual lo).toOption >>= fun _ => none
        cases v.compare .greaterEqual lo <;> rfl
      | ok hi =>
        show Except.toOption (do
            let a ← v.compare .greaterEqual lo
            let b ← v.compare .lessEqual hi
            pure (a && b)) = (do
          let a ← (v.compare .greaterEqual lo).toOption
          let b ← (v.compare .lessEqual hi).toOption
          pure (a && b))
        cases v.compare .greaterEqual lo with
        | error e => rfl
        | ok fromBelow => cases v.compare .lessEqual hi <;> rfl

end Operand

namespace Consequence

theorem answers_comparison (env : Environment) (left right : Operand) (op : Comparison) :
    (evaluate env (.comparison left op right)).1.Answers (left.compare? env op right) := by
  have hshown : ShownBy env (.comparison left op right) _ := evaluate_shownBy _
  have h := Reading.answers_settle (hshown.firstErrorIn nofun nofun)
  simp only [Reading.outcome_bind, bind_assoc] at h
  exact h

theorem answers_range (env : Environment) (value lower upper : Operand) :
    (evaluate env (.range value lower upper)).1.Answers (value.between? env lower upper) := by
  have hshown : ShownBy env (.range value lower upper) _ := evaluate_shownBy _
  have h := Reading.answers_settle (hshown.firstErrorIn nofun nofun)
  simp only [Reading.outcome_bind, bind_assoc] at h
  exact h

theorem answers_bounds (env : Environment) (value lower upper : Operand) :
    (evaluate env (bounds value lower upper)).1.Answers (value.between? env lower upper) := by
  have h := (answers_comparison env value lower .greaterEqual).and
    (answers_comparison env value upper .lessEqual) (bounds value lower upper).render
  rwa [← Operand.between?_eq] at h

/-! ## Operands that are reached -/

/-- The second comparison starts again with the value, even if there is none of the lower bound. -/
theorem mem_reached_bounds {value lower upper o : Operand} :
    o ∈ (bounds value lower upper).reached env ↔ o ∈ (range value lower upper).reached env ∨
      o = upper ∧ (value.value env).isOk = true ∧ (lower.value env).isOk = false := by
  simp only [bounds, reached, operands, Operand.reached, List.mem_append]
  cases (value.value env).isOk with
  | false => simp
  | true =>
    cases (lower.value env).isOk <;> cases (upper.value env).isOk <;> simp [or_assoc, or_left_comm]

theorem reaches_bounds {value lower upper : Operand} (P : Operand → Prop) :
    (∃ o ∈ (bounds value lower upper).reached env, P o) ↔
      (∃ o ∈ (range value lower upper).reached env, P o) ∨
        (value.value env).isOk = true ∧ (lower.value env).isOk = false ∧ P upper := by
  simp only [mem_reached_bounds]
  constructor
  · rintro ⟨o, ho | ⟨rfl, hvalue, hlower⟩, hP⟩
    · exact .inl ⟨o, ho, hP⟩
    · exact .inr ⟨hvalue, hlower, hP⟩
  · rintro (⟨o, ho, hP⟩ | ⟨hvalue, hlower, hP⟩)
    · exact ⟨o, .inl ho, hP⟩
    · exact ⟨upper, .inr ⟨rfl, hvalue, hlower⟩, hP⟩

/-! ## Rules -/

/-- A range has the result of its two bounds, and an error where they have one. In any rule, there is
a decision on it if there is one on the bounds; but there is none on these if the lower bound fails
and the upper one calls a function without a value, which the range does not come to. -/
theorem range_agrees_bounds (env : Environment) (value lower upper : Operand) :
    (evaluate env (.range value lower upper)).1.result =
      (evaluate env (bounds value lower upper)).1.result ∧
    (evaluate env (.range value lower upper)).1.hasError =
      (evaluate env (bounds value lower upper)).1.hasError ∧
    ∀ condition : Condition,
      Rule.decide? env ⟨condition, .consequence (bounds value lower upper)⟩ = none ↔
        Rule.decide? env ⟨condition, .consequence (.range value lower upper)⟩ = none ∨
          (condition.evaluate env).1.result = true ∧ (value.value env).isOk = true ∧
            (lower.value env).isOk = false ∧ upper.lacksValue env = true := by
  have hrange := answers_range env value lower upper
  have hbounds := answers_bounds env value lower upper
  refine ⟨hrange.result.trans hbounds.result.symm, hrange.hasError.trans hbounds.hasError.symm,
    fun condition => ?_⟩
  rw [Rule.noDecision_iff_reached, Rule.noDecision_iff_reached, Rule.exists_reached rfl,
    Rule.exists_reached rfl, reaches_bounds, and_or_left, or_assoc]

/-- Shortly before the end of the last day, where the lower bound is too long a span and the upper
one is `TODAY`. -/
theorem range_agrees_bounds_today :
    (∃ d : Decision,
      Rule.decide? ⟨⟨[]⟩, Instant.lastHalfHour, .standard⟩
        ⟨.truthiness (.bool true),
          .consequence (.range (.variable "x") (.span 9223372036854775807 .days) (.call "TODAY"))⟩ =
        some d ∧ d.outcome.result = false ∧ d.outcome.hasError = true) ∧
    Rule.decide? ⟨⟨[]⟩, Instant.lastHalfHour, .standard⟩
      ⟨.truthiness (.bool true),
        .consequence (bounds (.variable "x") (.span 9223372036854775807 .days) (.call "TODAY"))⟩ =
      none := by
  refine ⟨⟨_, rfl, rfl, rfl⟩, ?_⟩
  obtain ⟨-, -, hdecide⟩ := range_agrees_bounds ⟨⟨[]⟩, Instant.lastHalfHour, .standard⟩
    (.variable "x") (.span 9223372036854775807 .days) (.call "TODAY")
  exact (hdecide (.truthiness (.bool true))).2 (.inr ⟨rfl, rfl, rfl, by decide⟩)

end Consequence

end Compliance
