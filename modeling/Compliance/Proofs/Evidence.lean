import Compliance.Evidence

/-!
# Compliance.Proofs.Evidence

The nodes of evidence, and the errors among them.

* `Evidence.nodes`                   — all nodes in the order in which they are read.
* `Evidence.firstError_eq_findSome?` — the first failure of a tree is that of its first failed node.
* `Evidence.FailsClosed`             — a node that does not hold because of an error.
-/

namespace Compliance

namespace Evidence

mutual

/-- The nodes of a tree, a node in front of those below it, and those from left to right. -/
def nodes : Evidence → List Evidence
  | .node result reason error details =>
    .node result reason error details :: nodesIn details

def nodesIn : Details → List Evidence
  | .logical left _ right => nodes left ++ nodes right
  | .negation inner => nodes inner
  | .notMet condition => nodes condition
  | .demanded condition consequence => nodes condition ++ nodes consequence
  | .acted condition _ => nodes condition
  | _ => []

end

theorem nodes_eq (e : Evidence) : e.nodes = e :: nodesIn e.details := by
  obtain ⟨result, reason, error, details⟩ := e
  rw [nodes, Evidence.details]

theorem forall_nodes_iff {e : Evidence} {P : Evidence → Prop} :
    (∀ n ∈ e.nodes, P n) ↔ P e ∧ ∀ n ∈ nodesIn e.details, P n := by
  rw [nodes_eq]
  exact List.forall_mem_cons

mutual

theorem firstError_eq_findSome? : ∀ e : Evidence, e.firstError = e.nodes.findSome? error
  | .node _ _ (some _) _ => by rw [firstError, nodes, List.findSome?_cons, error]
  | .node _ _ none details => by
    rw [firstError, nodes, List.findSome?_cons, error, firstErrorIn_eq_findSome? details]

/-- The failures below a node are found in the order of the nodes there. -/
theorem firstErrorIn_eq_findSome? :
    ∀ details : Details, firstErrorIn details = (nodesIn details).findSome? error
  | .logical left _ right => by
    rw [firstErrorIn, nodesIn, List.findSome?_append, firstError_eq_findSome? left,
      firstError_eq_findSome? right]
  | .negation inner => by rw [firstErrorIn, nodesIn, firstError_eq_findSome? inner]
  | .notMet condition => by rw [firstErrorIn, nodesIn, firstError_eq_findSome? condition]
  | .demanded condition consequence => by
    rw [firstErrorIn, nodesIn, List.findSome?_append, firstError_eq_findSome? condition,
      firstError_eq_findSome? consequence]
  | .acted condition _ => by rw [firstErrorIn, nodesIn, firstError_eq_findSome? condition]
  | .missing => rfl
  | .comparison .. => rfl
  | .membership .. => rfl
  | .range .. => rfl
  | .textTest .. => rfl
  | .timeTest .. => rfl
  | .truthiness .. => rfl
  | .presence .. => rfl
  | .literal _ => rfl

end

/-- A node that does not hold, and tells the error that is to blame. -/
def FailsClosed (e : Evidence) : Prop := e.result = false ∧ e.error ≠ none

end Evidence

end Compliance
