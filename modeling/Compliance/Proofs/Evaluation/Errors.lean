import Compliance.Proofs.Evaluation.Justification
import Compliance.Proofs.Evidence

/-!
# Compliance.Proofs.Evaluation.Errors

Where the errors of an evaluation come to light.

* `Rule.evaluate_exits`      — the three ways in which the evaluation of a rule ends.
* `Rule.surfaces_error_iff`  — when the error of a rule is the first one in its evidence.
* `Condition.error_evaluate`, `Consequence.error_evaluate` — which roots have an error.
* `negation_failsClosed_iff` — when a negation does not hold because of an error below it.
-/

namespace Compliance

variable {env : Environment}

namespace Evidence

/-! ## The texts of errors -/

def errorText (e : Evidence) : Option String := e.error.map Failure.message

/-- The text of the first error among nodes. -/
def firstText (nodes : List Evidence) : Option String := nodes.findSome? errorText

theorem firstText_nodes (e : Evidence) : firstText e.nodes = e.firstError.map Failure.message := by
  rw [firstError_eq_findSome?, List.map_findSome?]
  rfl

theorem firstText_cons (e : Evidence) (ns : List Evidence) :
    firstText (e :: ns) = e.errorText.or (firstText ns) := by
  rw [firstText, List.findSome?_cons]
  cases e.errorText <;> rfl

theorem firstText_append (ns ms : List Evidence) :
    firstText (ns ++ ms) = (firstText ns).or (firstText ms) := List.findSome?_append

theorem firstError_eq_or (e : Evidence) : e.firstError = e.error.or (firstErrorIn e.details) := by
  rw [firstError_eq_findSome?, nodes_eq, firstErrorIn_eq_findSome?, List.findSome?_cons]
  cases e.error <;> rfl

end Evidence

open Evidence (firstText nodesIn firstErrorIn)

/-! ## Rules -/

/-- The text of the first error in the evidence for the condition. -/
def Rule.conditionError (env : Environment) (rule : Rule) : Option String :=
  firstText (rule.condition.evaluate env).1.nodes

/-- The text of the first error in the evidence for a body. There is no evidence for an action. -/
def Rule.Body.error (env : Environment) : Rule.Body → Option String
  | .consequence c => firstText (c.evaluate env).1.nodes
  | .action _ => none

theorem Rule.evaluate_exits (env : Environment) (rule : Rule) :
    ((rule.condition.evaluate env).1.result = false ∧ ∃ reason,
      (rule.evaluate env).1 = .node true reason (rule.condition.evaluate env).1.firstError
        (.notMet (rule.condition.evaluate env).1)) ∨
    ((rule.condition.evaluate env).1.result = true ∧ ∃ c reason, rule.body = .consequence c ∧
      (rule.evaluate env).1 = .node (c.evaluate env).1.result reason (c.evaluate env).1.firstError
        (.demanded (rule.condition.evaluate env).1 (c.evaluate env).1)) ∨
    ((rule.condition.evaluate env).1.result = true ∧ ∃ a record reason, rule.body = .action a ∧
      (rule.evaluate env).1 = .node true reason none
        (.acted (rule.condition.evaluate env).1 record)) := by
  obtain ⟨condition, body⟩ := rule
  cases hr : (condition.evaluate env).1.result with
  | false => exact .inl ⟨rfl, _, by simp only [Rule.evaluate, hr]; rfl⟩
  | true =>
    cases body with
    | consequence c => exact .inr (.inl ⟨rfl, c, _, rfl, by simp only [Rule.evaluate, hr]; rfl⟩)
    | action a => exact .inr (.inr ⟨rfl, a, _, _, rfl, by simp only [Rule.evaluate, hr]; rfl⟩)

theorem Rule.errorText_evaluate (env : Environment) (rule : Rule) :
    (rule.evaluate env).1.errorText =
      if (rule.condition.evaluate env).1.result then rule.body.error env
      else rule.conditionError env := by
  rcases rule.evaluate_exits env with ⟨hr, _, he⟩ | ⟨hr, c, _, hb, he⟩ | ⟨hr, a, _, _, hb, he⟩
  · rw [he, hr]
    exact (Evidence.firstText_nodes _).symm
  · rw [he, hr, hb]
    exact (Evidence.firstText_nodes _).symm
  · rw [he, hr, hb]
    rfl

theorem Rule.firstText_below (env : Environment) (rule : Rule) :
    firstText (nodesIn (rule.evaluate env).1.details) =
      if (rule.condition.evaluate env).1.result then
        (rule.conditionError env).or (rule.body.error env)
      else rule.conditionError env := by
  rcases rule.evaluate_exits env with ⟨hr, _, he⟩ | ⟨hr, c, _, hb, he⟩ | ⟨hr, a, _, _, hb, he⟩
  · rw [he, hr]
    rfl
  · rw [he, hr, hb]
    exact Evidence.firstText_append _ _
  · rw [he, hr, hb]
    exact Option.or_none.symm

/-- The error of a rule is the first one in the evidence below it, unless the condition holds in
spite of an error, and the body does not have the same one. The first error of the whole tree is
that one, too, unless a different error of the body stands in front of it. -/
theorem Rule.surfaces_error_iff (env : Environment) (rule : Rule) :
    ((rule.evaluate env).1.errorText = firstText (nodesIn (rule.evaluate env).1.details) ↔
      ((rule.condition.evaluate env).1.result = true →
        rule.conditionError env = none ∨ rule.conditionError env = rule.body.error env)) ∧
    ((rule.evaluate env).1.firstError.map Failure.message =
        firstText (nodesIn (rule.evaluate env).1.details) ↔
      ((rule.condition.evaluate env).1.result = true →
        rule.conditionError env = none ∨ rule.body.error env = none ∨
          rule.conditionError env = rule.body.error env)) := by
  have hwhole : (rule.evaluate env).1.firstError.map Failure.message =
      (rule.evaluate env).1.errorText.or (firstText (nodesIn (rule.evaluate env).1.details)) := by
    rw [← Evidence.firstText_nodes, Evidence.nodes_eq, Evidence.firstText_cons]
  rw [hwhole, rule.errorText_evaluate, rule.firstText_below]
  cases (rule.condition.evaluate env).1.result with
  | false => simp
  | true => cases rule.conditionError env <;> cases rule.body.error env <;> simp [eq_comm]

/-! ## Roots with an error -/

/-- Is it a single test, under any number of negations? -/
def Condition.isPlain : Condition → Bool
  | .negation inner => inner.isPlain
  | .logical _ _ _ => false
  | _ => true

/-- Is it a single demand, under any number of negations? -/
def Consequence.isPlain : Consequence → Bool
  | .negation inner => inner.isPlain
  | .logical _ _ _ => false
  | _ => true

namespace Evidence

theorem error_eq_firstError {e : Evidence} (h : firstErrorIn e.details = none) :
    e.error = e.firstError := by
  rw [firstError_eq_or, h, Option.or_none]

theorem error_negated {inner : Evidence} {isPlain : Bool} (node : String)
    (h : inner.error = if isPlain then inner.firstError else none) :
    (negated node inner).error = if isPlain then (negated node inner).firstError else none := by
  have hfirst : (negated node inner).firstError = inner.error.or inner.firstError :=
    firstError_eq_or _
  have herror : (negated node inner).error = inner.error := rfl
  rw [hfirst, herror, h]
  cases isPlain <;> simp

end Evidence

/-- There are no nodes below the evidence for a single test. -/
theorem Condition.ShownBy.firstErrorIn {c : Condition} {e : Evidence} (h : c.ShownBy env e)
    (hlogical : ∀ l op r, c ≠ .logical l op r) (hnegation : ∀ i, c ≠ .negation i) :
    firstErrorIn e.details = none := by
  cases h with
  | logical => exact absurd rfl (hlogical _ _ _)
  | negation => exact absurd rfl (hnegation _)
  | missing _ _ hd => rw [hd]; rfl
  | comparison _ hd => rw [hd]; rfl
  | membership _ hd => rw [hd]; rfl
  | textTest _ hd => rw [hd]; rfl
  | timeTest _ hd => rw [hd]; rfl
  | truthiness _ hd => rw [hd]; rfl

theorem Condition.error_evaluate (c : Condition) :
    (c.evaluate env).1.error = if c.isPlain then (c.evaluate env).1.firstError else none := by
  induction c with
  | logical left op right => rfl -- a connective leaves its errors where they are
  | negation inner ih => exact Evidence.error_negated _ ih
  | _ =>
    apply Evidence.error_eq_firstError
    exact (Condition.evaluate_shownBy _).firstErrorIn nofun nofun

theorem Consequence.ShownBy.firstErrorIn {c : Consequence} {e : Evidence} (h : c.ShownBy env e)
    (hlogical : ∀ l op r, c ≠ .logical l op r) (hnegation : ∀ i, c ≠ .negation i) :
    firstErrorIn e.details = none := by
  cases h with
  | logical => exact absurd rfl (hlogical _ _ _)
  | negation => exact absurd rfl (hnegation _)
  | missing _ _ hd => rw [hd]; rfl
  | comparison _ hd => rw [hd]; rfl
  | membership _ hd => rw [hd]; rfl
  | range _ hd => rw [hd]; rfl
  | presence _ hd => rw [hd]; rfl
  | literal hd => rw [hd]; rfl
  | truthiness _ hd => rw [hd]; rfl

theorem Consequence.error_evaluate (c : Consequence) :
    (c.evaluate env).1.error = if c.isPlain then (c.evaluate env).1.firstError else none := by
  induction c with
  | logical left op right => rfl
  | negation inner ih => exact Evidence.error_negated _ ih
  | _ =>
    apply Evidence.error_eq_firstError
    exact (Consequence.evaluate_shownBy _).firstErrorIn nofun nofun

/-! ## Negations -/

namespace Evidence

theorem failsClosed_negated_iff {node : String} {inner : Evidence} :
    (negated node inner).FailsClosed ↔ inner.error ≠ none := by
  constructor
  · intro h
    exact h.2
  · intro h
    have hnone : inner.error.isNone = false := by
      rw [Option.isNone_eq_false_iff]
      exact Option.isSome_iff_ne_none.2 h
    have hresult : (negated node inner).result = false := by
      simp only [negated, result, hnone, Bool.false_and]
    exact ⟨hresult, h⟩

theorem result_negated_of_error {node : String} {inner : Evidence} (h : inner.error = none) :
    (negated node inner).result = !inner.result := by
  simp [negated, result, h]

theorem negated_of_hasError {inner : Evidence} {isPlain : Bool} (node : String)
    (hroot : inner.error = if isPlain then inner.firstError else none)
    (h : inner.hasError = true) :
    ((negated node inner).FailsClosed ↔ isPlain = true) ∧
      (isPlain = false → (negated node inner).result = !inner.result) := by
  have hfirst : inner.firstError ≠ none := Option.isSome_iff_ne_none.1 h
  constructor
  · rw [failsClosed_negated_iff, hroot]
    cases isPlain <;> simp [hfirst]
  · intro hplain
    rw [hplain] at hroot
    exact result_negated_of_error hroot

/-- Two ways to say that neither of two things holds. -/
theorem result_negated_or_iff (a b : Evidence) (n₁ n₂ n₃ n₄ n₅ : String) :
    (negated n₁ (combined n₂ .or a b)).result =
        (combined n₃ .and (negated n₄ a) (negated n₅ b)).result ↔
      a.result = true ∨ b.result = true ∨ a.error = none ∧ b.error = none := by
  have hor : (negated n₁ (combined n₂ .or a b)).result = !(a.result || b.result) :=
    result_negated_of_error rfl
  have hand : (combined n₃ .and (negated n₄ a) (negated n₅ b)).result =
      ((a.error.isNone && !a.result) && (b.error.isNone && !b.result)) := rfl
  rw [hor, hand]
  cases a.result <;> cases b.result <;> cases a.error <;> cases b.error <;> simp

end Evidence

/-- A tree in which an error occurs fails closed under `NOT` if it is a single test under any number
of negations; below `AND` and `OR` the error is not seen, and the result is turned round. -/
theorem negation_failsClosed_iff (env : Environment) :
    (∀ c : Condition, (c.evaluate env).1.hasError = true →
      (((Condition.negation c).evaluate env).1.FailsClosed ↔ c.isPlain = true) ∧
      (c.isPlain = false →
        ((Condition.negation c).evaluate env).1.result = !(c.evaluate env).1.result)) ∧
    (∀ c : Consequence, (c.evaluate env).1.hasError = true →
      (((Consequence.negation c).evaluate env).1.FailsClosed ↔ c.isPlain = true) ∧
      (c.isPlain = false →
        ((Consequence.negation c).evaluate env).1.result = !(c.evaluate env).1.result)) ∧
    (∀ a b : Condition,
      ((Condition.negation (.logical a .or b)).evaluate env).1.result =
          ((Condition.logical (.negation a) .and (.negation b)).evaluate env).1.result ↔
        (a.evaluate env).1.result = true ∨ (b.evaluate env).1.result = true ∨
          (a.evaluate env).1.error = none ∧ (b.evaluate env).1.error = none) ∧
    (∀ a b : Consequence,
      ((Consequence.negation (.logical a .or b)).evaluate env).1.result =
          ((Consequence.logical (.negation a) .and (.negation b)).evaluate env).1.result ↔
        (a.evaluate env).1.result = true ∨ (b.evaluate env).1.result = true ∨
          (a.evaluate env).1.error = none ∧ (b.evaluate env).1.error = none) := by
  refine ⟨?_, ?_, ?_, ?_⟩
  · intro c h
    exact Evidence.negated_of_hasError _ c.error_evaluate h
  · intro c h
    exact Evidence.negated_of_hasError _ c.error_evaluate h
  · intro a b
    exact Evidence.result_negated_or_iff _ _ _ _ _ _ _
  · intro a b
    exact Evidence.result_negated_or_iff _ _ _ _ _ _ _

/-- A call that fails right below `NOT`, and one that fails below `AND` there. -/
theorem negation_failsClosed_call :
    (Condition.evaluate ⟨⟨[]⟩, Instant.epoch, FunctionTable.empty⟩
      (.truthiness (.call "LATER"))).1.hasError = true ∧
    Evidence.FailsClosed (Condition.evaluate ⟨⟨[]⟩, Instant.epoch, FunctionTable.empty⟩
      (.negation (.truthiness (.call "LATER")))).1 ∧
    ¬ Evidence.FailsClosed (Condition.evaluate ⟨⟨[]⟩, Instant.epoch, FunctionTable.empty⟩
      (.negation (.logical (.truthiness (.call "LATER")) .and (.truthiness (.bool true))))).1 ∧
    (Consequence.evaluate ⟨⟨[]⟩, Instant.epoch, FunctionTable.empty⟩
      (.negation (.logical (.truthiness (.call "LATER")) .or (.literal false)))).1.result = true := by
  have h := negation_failsClosed_iff ⟨⟨[]⟩, Instant.epoch, FunctionTable.empty⟩
  refine ⟨rfl, ?_, ?_, ?_⟩
  · exact (h.1 (.truthiness (.call "LATER")) rfl).1.2 rfl
  · intro hclosed
    have hplain := (h.1 (.logical (.truthiness (.call "LATER")) .and (.truthiness (.bool true)))
      rfl).1.1 hclosed
    cases hplain
  · exact (h.2.1 (.logical (.truthiness (.call "LATER")) .or (.literal false)) rfl).2 rfl

end Compliance
