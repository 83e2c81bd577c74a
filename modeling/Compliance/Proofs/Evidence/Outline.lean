import Compliance.Evidence.Outline
import Compliance.Proofs.Evidence
import Compliance.Proofs.Text.Lines

/-!
# Compliance.Proofs.Evidence.Outline

The outline of evidence, entry by entry.

* `Evidence.entries`      — what the outline shows: the nodes in their order, and actions.
* `Evidence.toList_outline` — the outline consists of the lines of the entries.
* `Evidence.length_lines_outline_iff` — it has a line for each entry just in case no entry breaks.
-/

namespace Compliance.Evidence

open Text (IsOneLine)

/-- What stands on a line of an outline: a node or an action, and how deep it is in the tree. -/
inductive Entry where
  | node (depth : Nat) (e : Evidence)
  | action (depth : Nat) (a : ActionRecord)

namespace Entry

def depth : Entry → Nat
  | .node depth _ => depth
  | .action depth _ => depth

def node? : Entry → Option Evidence
  | .node _ e => some e
  | .action _ _ => none

def action? : Entry → Option ActionRecord
  | .node _ _ => none
  | .action _ a => some a

/-- A node is shown by its result and its reason, an action by its verb, target and label. -/
def text : Entry → String
  | .node _ e => (if e.result then "[pass] " else "[FAIL] ") ++ e.reason
  | .action _ a => "-> " ++ a.verb.keyword ++ " " ++ a.target ++ " " ++ a.label

/-- Two blanks for each level in front of the text. -/
def line (x : Entry) : List Char := List.replicate (2 * x.depth) ' ' ++ x.text.toList

theorem isOneLine_line {x : Entry} : IsOneLine x.line ↔ IsOneLine x.text.toList := by
  have hblanks : IsOneLine (List.replicate (2 * x.depth) ' ') :=
    Text.isOneLine_of_forall (p := (· == ' ')) rfl fun c hc => by
      rw [List.eq_of_mem_replicate hc]
      rfl
  rw [line, Text.isOneLine_append]
  exact and_iff_right hblanks

end Entry

mutual

/-- The entries of a tree whose root stands at a depth. -/
def entriesAt (depth : Nat) : Evidence → List Entry
  | .node result reason error details =>
    .node depth (.node result reason error details) :: entriesBelow (depth + 1) details

def entriesBelow (depth : Nat) : Details → List Entry
  | .logical left _ right => entriesAt depth left ++ entriesAt depth right
  | .negation inner => entriesAt depth inner
  | .notMet condition => entriesAt depth condition
  | .demanded condition consequence => entriesAt depth condition ++ entriesAt depth consequence
  | .acted condition action => entriesAt depth condition ++ [.action depth action]
  | _ => []

end

def entries (e : Evidence) : List Entry := entriesAt 0 e

mutual

/-- The nodes among the entries are all nodes, in their order. -/
theorem filterMap_node?_entriesAt (depth : Nat) :
    ∀ e : Evidence, (entriesAt depth e).filterMap Entry.node? = e.nodes
  | .node result reason error details => by
    rw [entriesAt, nodes, List.filterMap_cons, Entry.node?,
      filterMap_node?_entriesBelow (depth + 1) details]

theorem filterMap_node?_entriesBelow (depth : Nat) :
    ∀ details : Details, (entriesBelow depth details).filterMap Entry.node? = nodesIn details
  | .logical left _ right => by
    rw [entriesBelow, nodesIn, List.filterMap_append, filterMap_node?_entriesAt depth left,
      filterMap_node?_entriesAt depth right]
  | .negation inner => by rw [entriesBelow, nodesIn, filterMap_node?_entriesAt depth inner]
  | .notMet condition => by rw [entriesBelow, nodesIn, filterMap_node?_entriesAt depth condition]
  | .demanded condition consequence => by
    rw [entriesBelow, nodesIn, List.filterMap_append, filterMap_node?_entriesAt depth condition,
      filterMap_node?_entriesAt depth consequence]
  | .acted condition action => by
    rw [entriesBelow, nodesIn, List.filterMap_append, filterMap_node?_entriesAt depth condition]
    exact List.append_nil _
  | .missing | .comparison .. | .membership .. | .range .. | .textTest .. | .timeTest ..
  | .truthiness .. | .presence .. | .literal _ => rfl

end

theorem toList_outlineLine (depth : Nat) (text : String) :
    (outlineLine depth text).toList = List.replicate (2 * depth) ' ' ++ text.toList ++ ['\n'] := by
  rw [outlineLine, String.toList_append, String.toList_append, String.toList_ofList]
  rfl

mutual

theorem toList_outlineAt (depth : Nat) :
    ∀ e : Evidence, (outlineAt depth e).toList = Text.ended ((entriesAt depth e).map Entry.line)
  | .node result reason error details => by
    rw [outlineAt, String.toList_append, toList_outlineLine, toList_outlineBelow (depth + 1) details]
    rfl

theorem toList_outlineBelow (depth : Nat) :
    ∀ details : Details,
      (outlineBelow depth details).toList = Text.ended ((entriesBelow depth details).map Entry.line)
  | .logical left _ right => by
    rw [outlineBelow, entriesBelow, String.toList_append, toList_outlineAt depth left,
      toList_outlineAt depth right, Text.ended, Text.ended, Text.ended, List.map_append,
      List.flatMap_append]
  | .negation inner => by rw [outlineBelow, entriesBelow, toList_outlineAt depth inner]
  | .notMet condition => by rw [outlineBelow, entriesBelow, toList_outlineAt depth condition]
  | .demanded condition consequence => by
    rw [outlineBelow, entriesBelow, String.toList_append, toList_outlineAt depth condition,
      toList_outlineAt depth consequence, Text.ended, Text.ended, Text.ended, List.map_append,
      List.flatMap_append]
  | .acted condition action => by
    rw [outlineBelow, entriesBelow, String.toList_append, toList_outlineAt depth condition,
      actionLine, toList_outlineLine, Text.ended, Text.ended, List.map_append,
      List.flatMap_append, List.map_singleton, List.flatMap_singleton]
    rfl
  | .missing | .comparison .. | .membership .. | .range .. | .textTest .. | .timeTest ..
  | .truthiness .. | .presence .. | .literal _ => rfl

end

/-- The outline consists of the lines of its entries. -/
theorem toList_outline (e : Evidence) :
    e.outline.toList = Text.ended (e.entries.map Entry.line) := toList_outlineAt 0 e

/-- Entries of one line are the lines of the outline. -/
theorem lines_outline {e : Evidence} (h : ∀ x ∈ e.entries, IsOneLine x.text.toList) :
    Text.lines e.outline.toList = e.entries.map fun x => Text.dropReturn x.line := by
  rw [toList_outline, Text.lines_ended (List.forall_mem_map.2 fun x hx =>
    Entry.isOneLine_line.2 (h x hx)), List.map_map]
  rfl

/-- There are as many lines as entries just in case each entry is of one line. -/
theorem length_lines_outline_iff {e : Evidence} :
    (Text.lines e.outline.toList).length = e.entries.length ↔
      ∀ x ∈ e.entries, IsOneLine x.text.toList := by
  rw [toList_outline, ← List.length_map Entry.line, Text.length_lines_ended_eq_iff,
    List.forall_mem_map]
  exact forall₂_congr fun x _ => Entry.isOneLine_line

/-- The line of a node is one line just in case its reason is. -/
theorem Entry.isOneLine_node {depth : Nat} {e : Evidence} :
    IsOneLine (Entry.node depth e).text.toList ↔ IsOneLine e.reason.toList := by
  have hmark : IsOneLine (if e.result then "[pass] " else "[FAIL] ").toList := by
    cases e.result <;> decide
  rw [text, String.toList_append, Text.isOneLine_append]
  exact and_iff_right hmark

/-- The actions that a tree records, from left to right. -/
def actions (e : Evidence) : List ActionRecord := e.entries.filterMap Entry.action?

/-- All entries are of one line just in case the reasons are, and the lines of the actions. -/
theorem forall_entries_iff {e : Evidence} :
    (∀ x ∈ e.entries, IsOneLine x.text.toList) ↔
      (∀ n ∈ e.nodes, IsOneLine n.reason.toList) ∧
        ∀ a ∈ e.actions, ∀ depth, IsOneLine (Entry.action depth a).text.toList := by
  rw [← filterMap_node?_entriesAt 0 e]
  constructor
  · intro h
    constructor
    · intro n hn
      obtain ⟨x, hx, hxn⟩ := List.mem_filterMap.1 hn
      cases x with
      | node depth m =>
        obtain rfl : m = n := Option.some.inj hxn
        exact Entry.isOneLine_node.1 (h _ hx)
      | action => cases hxn
    · intro a ha depth
      obtain ⟨x, hx, hxa⟩ := List.mem_filterMap.1 ha
      cases x with
      | node => cases hxa
      | action depth' b =>
        obtain rfl : b = a := Option.some.inj hxa
        have hline := h _ hx
        exact hline
  · rintro ⟨hnodes, hactions⟩ x hx
    cases x with
    | node depth m => exact Entry.isOneLine_node.2 (hnodes m (List.mem_filterMap.2 ⟨_, hx, rfl⟩))
    | action depth a => exact hactions a (List.mem_filterMap.2 ⟨_, hx, rfl⟩) depth

theorem entriesAt_eq (depth : Nat) (e : Evidence) :
    entriesAt depth e = .node depth e :: entriesBelow (depth + 1) e.details := by
  obtain ⟨result, reason, error, details⟩ := e
  rw [entriesAt, Evidence.details]

end Compliance.Evidence
