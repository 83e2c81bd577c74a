import Compliance.Proofs.Evaluation.Justification
import Compliance.Proofs.Evidence.Outline
import Compliance.Proofs.Failure
import Compliance.Proofs.Rule.Lines

/-!
# Compliance.Proofs.Evaluation.Reasons

The reasons in evidence, and the lines that they take in an outline.

* `Evidence.IsTest`               — the evidence of a single test: a failure, or its text.
* `Condition.reasonsOneLine_iff`, `Consequence.reasonsOneLine_iff` — when all reasons below a tree
  are of one line.
-/

namespace Compliance

open Evidence (nodesIn)
open Text (IsOneLine)

variable {env : Environment}

namespace Evidence

def ReasonsOneLine (e : Evidence) : Prop := ∀ n ∈ e.nodes, IsOneLine n.reason.toList

/-- No failure in the tree takes several lines to tell. -/
def FailuresOneLine (e : Evidence) : Prop := ∀ n ∈ e.nodes, ∀ f, n.error = some f → f.IsOneLine

theorem reasonsOneLine_iff_root {e : Evidence} :
    e.ReasonsOneLine ↔
      IsOneLine e.reason.toList ∧ ∀ n ∈ nodesIn e.details, IsOneLine n.reason.toList :=
  forall_nodes_iff

theorem failuresOneLine_iff_root {e : Evidence} :
    e.FailuresOneLine ↔ (∀ f, e.error = some f → f.IsOneLine) ∧
      ∀ n ∈ nodesIn e.details, ∀ f, n.error = some f → f.IsOneLine :=
  forall_nodes_iff

theorem isOneLine_verdict {node : String} {b : Bool} :
    IsOneLine (verdict node b).toList ↔ IsOneLine node.toList := by
  have hb : IsOneLine (if b then "true" else "false").toList := by cases b <;> decide
  exact (Text.isOneLine_around (by decide)).trans (and_iff_left hb)

/-! ## Single tests -/

/-- The evidence of a test with certain texts: it tells a failure, or shows the texts. -/
structure IsTest (marks : List (Option String)) (e : Evidence) : Prop where
  below : nodesIn e.details = []
  told : (∃ f, e.error = some f ∧ e.result = false ∧ (IsOneLine e.reason.toList ↔ f.IsOneLine)) ∨
    e.error = none ∧ (IsOneLine e.reason.toList ↔ NoneBreaks marks)

theorem isTest_failed {marks : List (Option String)} {f : Failure} {details : Details}
    (h : nodesIn details = []) : (failed f details).IsTest marks where
  below := h
  told := .inl ⟨f, rfl, rfl, (Text.isOneLine_prefixed (by decide)).trans f.isOneLine_message_iff⟩

theorem isTest_node {marks : List (Option String)} {b : Bool} {reason : String} {details : Details}
    (h : nodesIn details = []) (hreason : IsOneLine reason.toList ↔ NoneBreaks marks) :
    (node b reason none details).IsTest marks where
  below := h
  told := .inr ⟨rfl, hreason⟩

theorem isTest_settled {marks : List (Option String)} {node : String} {details : Details}
    (h : nodesIn details = []) (hnode : IsOneLine node.toList ↔ NoneBreaks marks)
    (outcome : Except Failure Bool) : (settled node outcome details).IsTest marks := by
  cases outcome with
  | error f => exact isTest_failed h
  | ok b => exact isTest_node h (isOneLine_verdict.trans hnode)

theorem IsTest.nodes_eq {marks : List (Option String)} {e : Evidence} (h : e.IsTest marks) :
    e.nodes = [e] := by
  rw [Evidence.nodes_eq, h.below]

/-- A test takes one line if its failure does, or if it shows no text of several lines. -/
theorem IsTest.reasonsOneLine_iff {marks : List (Option String)} {e : Evidence} {isTest : Bool}
    (h : e.IsTest marks) (ht : isTest = true) :
    e.ReasonsOneLine ↔
      e.FailuresOneLine ∧ (NoneBreaks marks ∨ isTest = true ∧ e.error.isSome = true) := by
  rw [ReasonsOneLine, FailuresOneLine, h.nodes_eq, List.forall_mem_singleton,
    List.forall_mem_singleton, and_iff_right ht]
  rcases h.told with ⟨f, hf, -, hreason⟩ | ⟨hf, hreason⟩
  · simp [hf, hreason]
  · simp [hf, hreason]

end Evidence

/-- The evidence of a test is that of a failed operand, or is made of the values. -/
theorem Reading.Uses.isTest_settle {os : List Operand}
    {r : Reading (Except Failure Bool × Details)}
    {use : List Value → Except Failure Bool × Details → Prop} (h : Uses env os r use)
    (huse : ∀ vs outcome details, use vs (outcome, details) → nodesIn details = [])
    {node : String} {marks : List (Option String)}
    (hnode : IsOneLine node.toList ↔ NoneBreaks marks) : (r.settle node).1.IsTest marks :=
  h.settled (fun _ _ => Evidence.isTest_failed rfl) fun vs outcome details _ ha =>
    Evidence.isTest_settled (huse vs outcome details ha) hnode outcome

/-! ## Trees -/

namespace Evidence

variable {left right inner : Evidence} {marks : List (Option String)} {node : String}

/-- A connective shows its text, however its sides come out. -/
theorem reasonsOneLine_combined {ls rs : List (Option String)} {p q : Prop} {op : Connective}
    (hnode : IsOneLine node.toList ↔ NoneBreaks (ls ++ rs))
    (hl : left.ReasonsOneLine ↔ left.FailuresOneLine ∧ (NoneBreaks ls ∨ p))
    (hr : right.ReasonsOneLine ↔ right.FailuresOneLine ∧ (NoneBreaks rs ∨ q)) :
    (combined node op left right).ReasonsOneLine ↔
      (combined node op left right).FailuresOneLine ∧ NoneBreaks (ls ++ rs) := by
  have hbelow : nodesIn (combined node op left right).details = left.nodes ++ right.nodes := by
    rw [combined, details, nodesIn]
  have hroot : IsOneLine (combined node op left right).reason.toList ↔ IsOneLine node.toList := by
    rw [combined, reason, isOneLine_verdict]
  have hreasons : (combined node op left right).ReasonsOneLine ↔
      IsOneLine node.toList ∧ left.ReasonsOneLine ∧ right.ReasonsOneLine := by
    rw [reasonsOneLine_iff_root, hbelow, List.forall_mem_append, hroot]
    rfl
  have hfailures : (combined node op left right).FailuresOneLine ↔
      left.FailuresOneLine ∧ right.FailuresOneLine := by
    rw [failuresOneLine_iff_root, hbelow, List.forall_mem_append]
    exact and_iff_right fun f hf => absurd (hf : none = some f) (Option.some_ne_none f).symm
  rw [hreasons, hfailures, hnode, hl, hr, noneBreaks_append]
  constructor
  · rintro ⟨hclean, ⟨hfl, -⟩, ⟨hfr, -⟩⟩
    exact ⟨⟨hfl, hfr⟩, hclean⟩
  · rintro ⟨⟨hfl, hfr⟩, hls, hrs⟩
    exact ⟨⟨hls, hrs⟩, ⟨hfl, .inl hls⟩, hfr, .inl hrs⟩

/-- A negation shows its text, and has the failure of what it negates. -/
theorem reasonsOneLine_negated {p : Prop} (hnode : IsOneLine node.toList ↔ NoneBreaks marks)
    (hi : inner.ReasonsOneLine ↔ inner.FailuresOneLine ∧ (NoneBreaks marks ∨ p)) :
    (negated node inner).ReasonsOneLine ↔
      (negated node inner).FailuresOneLine ∧ NoneBreaks marks := by
  have hreasons : (negated node inner).ReasonsOneLine ↔
      IsOneLine node.toList ∧ inner.ReasonsOneLine :=
    reasonsOneLine_iff_root.trans (and_congr_left' isOneLine_verdict)
  have hfailures : (negated node inner).FailuresOneLine ↔ inner.FailuresOneLine :=
    failuresOneLine_iff_root.trans
      (and_iff_right_of_imp fun h => (failuresOneLine_iff_root.1 h).1)
  rw [hreasons, hfailures, hnode, hi]
  constructor
  · rintro ⟨hclean, hfi, -⟩
    exact ⟨hfi, hclean⟩
  · rintro ⟨hfi, hclean⟩
    exact ⟨hclean, hfi, .inl hclean⟩

end Evidence

/-- Is the condition a single test? -/
def Condition.isTest : Condition → Bool
  | .logical _ _ _ => false
  | .negation _ => false
  | _ => true

def Consequence.isTest : Consequence → Bool
  | .logical _ _ _ => false
  | .negation _ => false
  | _ => true

theorem Condition.isTest_evaluate {c : Condition} (h : AllLexemes c.tokens) (ht : c.isTest = true) :
    (c.evaluate env).1.IsTest c.marks := by
  have hnode := Condition.isOneLine_render h
  cases c with
  | comparison left op right =>
    refine (Reading.Uses.pair left right _).isTest_settle ?_ hnode
    rintro vs outcome details ⟨l, r, -, ⟨⟩⟩
    rfl
  | membership value values =>
    refine (Reading.Uses.list value values _).isTest_settle ?_ hnode
    rintro vs outcome details ⟨v, ws, -, ⟨⟩⟩
    rfl
  | textTest value op pattern =>
    refine (Reading.Uses.pair value pattern _).isTest_settle ?_ hnode
    rintro vs outcome details ⟨v, p, -, ⟨⟩⟩
    rfl
  | timeTest value op reference =>
    refine (Reading.Uses.pair value reference _).isTest_settle ?_ hnode
    rintro vs outcome details ⟨v, r, -, ⟨⟩⟩
    rfl
  | truthiness value =>
    refine (Reading.Uses.single value _).isTest_settle ?_ hnode
    rintro vs outcome details ⟨v, -, ⟨⟩⟩
    rfl
  | logical | negation => cases ht

/-- The reasons below a condition are of one line just in case its failures are, and its texts: but
those of a single test that fails do not show. -/
theorem Condition.reasonsOneLine_iff {c : Condition} (h : AllLexemes c.tokens) :
    (c.evaluate env).1.ReasonsOneLine ↔ (c.evaluate env).1.FailuresOneLine ∧
      (NoneBreaks c.marks ∨ c.isTest = true ∧ (c.evaluate env).1.error.isSome = true) := by
  induction c with
  | logical left op right ihl ihr =>
    obtain ⟨hl, hrest⟩ := allLexemes_append.1 (allLexemes_cons.1 h).2
    obtain ⟨hr, -⟩ := allLexemes_append.1 (allLexemes_cons.1 hrest).2
    rw [or_iff_left (fun hp => absurd hp.1 Bool.false_ne_true)]
    exact Evidence.reasonsOneLine_combined (Condition.isOneLine_render h) (ihl hl) (ihr hr)
  | negation inner ih =>
    rw [or_iff_left (fun hp => absurd hp.1 Bool.false_ne_true)]
    exact Evidence.reasonsOneLine_negated (Condition.isOneLine_render h)
      (ih (allLexemes_cons.1 h).2)
  | _ => exact (Condition.isTest_evaluate h rfl).reasonsOneLine_iff rfl

theorem Demand.isOneLine_reason {demand : Demand} {operand : String} {isPresent : Bool} :
    IsOneLine (demand.reason operand isPresent).toList ↔ IsOneLine operand.toList := by
  cases isPresent with
  | true => exact Text.isOneLine_suffixed (by decide)
  | false => cases demand <;> exact Text.isOneLine_suffixed (by decide)

theorem Consequence.isTest_evaluate {c : Consequence} (h : AllLexemes c.tokens)
    (ht : c.isTest = true) : (c.evaluate env).1.IsTest c.marks := by
  have hnode := Consequence.isOneLine_render h
  cases c with
  | comparison left op right =>
    refine (Reading.Uses.pair left right _).isTest_settle ?_ hnode
    rintro vs outcome details ⟨l, r, -, ⟨⟩⟩
    rfl
  | membership value isNegated values =>
    refine (Reading.Uses.list value values _).isTest_settle ?_ hnode
    rintro vs outcome details ⟨v, ws, -, ⟨⟩⟩
    rfl
  | range value lower upper =>
    refine (Reading.Uses.triple value lower upper _).isTest_settle ?_ hnode
    rintro vs outcome details ⟨v, lo, hi, -, ⟨⟩⟩
    rfl
  | presence value demand =>
    rcases demand.finding_cases value value.render with ⟨f, -, hf⟩ | ⟨v, -, hv⟩
    · rw [evaluate, hf]
      exact Evidence.isTest_failed rfl
    · rw [evaluate, hv]
      exact Evidence.isTest_node rfl
        (Demand.isOneLine_reason.trans (Operand.isOneLine_render (allLexemes_cons.1 h).2))
  | literal b => exact Evidence.isTest_settled rfl hnode (.ok b)
  | truthiness value =>
    refine (Reading.Uses.single value _).isTest_settle ?_ hnode
    rintro vs outcome details ⟨v, -, ⟨⟩⟩
    rfl
  | logical | negation => cases ht

theorem Consequence.reasonsOneLine_iff {c : Consequence} (h : AllLexemes c.tokens) :
    (c.evaluate env).1.ReasonsOneLine ↔ (c.evaluate env).1.FailuresOneLine ∧
      (NoneBreaks c.marks ∨ c.isTest = true ∧ (c.evaluate env).1.error.isSome = true) := by
  induction c with
  | logical left op right ihl ihr =>
    obtain ⟨hl, hrest⟩ := allLexemes_append.1 (allLexemes_cons.1 h).2
    obtain ⟨hr, -⟩ := allLexemes_append.1 (allLexemes_cons.1 hrest).2
    rw [or_iff_left (fun hp => absurd hp.1 Bool.false_ne_true)]
    exact Evidence.reasonsOneLine_combined (Consequence.isOneLine_render h) (ihl hl) (ihr hr)
  | negation inner ih =>
    rw [or_iff_left (fun hp => absurd hp.1 Bool.false_ne_true)]
    exact Evidence.reasonsOneLine_negated (Consequence.isOneLine_render h)
      (ih (allLexemes_cons.1 h).2)
  | _ => exact (Consequence.isTest_evaluate h rfl).reasonsOneLine_iff rfl

end Compliance
