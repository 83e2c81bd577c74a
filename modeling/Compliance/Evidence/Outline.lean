import Compliance.Evidence

/-!
# Compliance.Evidence.Outline

Evidence as an outline: a line for each node, two blanks deeper than the node above it.

* `Evidence.outline` — the text of the outline.
-/

namespace Compliance.Evidence

/-- A line of the outline. -/
def outlineLine (depth : Nat) (text : String) : String :=
  String.ofList (List.replicate (2 * depth) ' ') ++ text ++ "\n"

/-- The line of an action that was recorded. -/
def actionLine (depth : Nat) (a : ActionRecord) : String :=
  outlineLine depth ("-> " ++ a.verb.keyword ++ " " ++ a.target ++ " " ++ a.label)

mutual

/-- The lines of a tree whose root stands at a depth. -/
def outlineAt (depth : Nat) : Evidence → String
  | .node result reason _ details =>
    outlineLine depth ((if result then "[pass] " else "[FAIL] ") ++ reason) ++
      outlineBelow (depth + 1) details

def outlineBelow (depth : Nat) : Details → String
  | .logical left _ right => outlineAt depth left ++ outlineAt depth right
  | .negation inner => outlineAt depth inner
  | .notMet condition => outlineAt depth condition
  | .demanded condition consequence => outlineAt depth condition ++ outlineAt depth consequence
  | .acted condition action => outlineAt depth condition ++ actionLine depth action
  | _ => ""

end

/-- The outline of a tree. -/
def outline (e : Evidence) : String := outlineAt 0 e

end Compliance.Evidence
