import Compliance.Proofs.Decision
import Compliance.Proofs.Evaluation.Reasons

/-!
# Compliance.Proofs.Decision.Outline

The outline of a decision, line by line.

* `Rule.actions_evaluate`      — the evidence for a rule records at most one action.
* `Rule.entriesOneLine_iff`    — when all its entries are of one line.
* `Decision.outline_lines_iff` — when the lines of the outline are the nodes, and that action.
-/

namespace Compliance

open Evidence (Entry nodesIn entriesAt entriesBelow)

variable {env : Environment}

/-! ## Reasons -/

/-- Do the texts of a condition take one line in its evidence? Those of a single test that fails do
not show there. -/
def Condition.ShowsOneLine (env : Environment) (c : Condition) : Prop :=
  NoneBreaks c.marks ∨ c.isTest = true ∧ (c.evaluate env).1.error.isSome = true

/-- Do the texts of a body take one line? The label of an action is shown as it is. -/
def Rule.Body.IsOneLine : Rule.Body → Prop
  | .consequence c => NoneBreaks c.marks
  | .action a => Text.IsOneLine a.label.toList

theorem Evidence.FailuresOneLine.firstError {e : Evidence} (h : e.FailuresOneLine) {f : Failure}
    (hf : e.firstError = some f) : f.IsOneLine := by
  rw [Evidence.firstError_eq_findSome?] at hf
  obtain ⟨n, hn, hnf⟩ := List.exists_of_findSome?_eq_some hf
  exact h n hn f hnf

/-- A single test that holds has no failure. -/
theorem Consequence.error_of_result {c : Consequence} (h : AllLexemes c.tokens)
    (ht : c.isTest = true) (hr : (c.evaluate env).1.result = true) :
    (c.evaluate env).1.error = none := by
  rcases (Consequence.isTest_evaluate h ht).told with ⟨f, -, hf, -⟩ | ⟨hf, -⟩
  · rw [hr] at hf
    cases hf
  · exact hf

/-- The consequence of a rule is repeated where it does not hold, so that its texts always show. -/
theorem Consequence.reasonsOneLine_verdict {c : Consequence} (h : AllLexemes c.tokens) :
    (Text.IsOneLine (if (c.evaluate env).1.result then "Condition met and consequence satisfied"
        else "Consequence violated: " ++ c.render).toList ∧ (c.evaluate env).1.ReasonsOneLine) ↔
      (c.evaluate env).1.FailuresOneLine ∧ NoneBreaks c.marks := by
  rw [Consequence.reasonsOneLine_iff h]
  cases hr : (c.evaluate env).1.result with
  | true =>
    have hreason : Text.IsOneLine "Condition met and consequence satisfied".toList :=
      Text.isOneLine_ofList.2 (by decide)
    have hnone : ¬ (c.isTest = true ∧ (c.evaluate env).1.error.isSome = true) := by
      rintro ⟨ht, hsome⟩
      rw [Consequence.error_of_result h ht hr] at hsome
      cases hsome
    rw [if_pos rfl, or_iff_left hnone]
    exact and_iff_right hreason
  | false =>
    have hreason : Text.IsOneLine ("Consequence violated: " ++ c.render).toList ↔
        NoneBreaks c.marks :=
      (Text.isOneLine_prefixed (by decide)).trans (Consequence.isOneLine_render h)
    rw [if_neg Bool.false_ne_true, hreason]
    constructor
    · rintro ⟨hc, hf, -⟩
      exact ⟨hf, hc⟩
    · rintro ⟨hf, hc⟩
      exact ⟨hc, hf, .inl hc⟩

theorem Rule.evaluate_notMet {c : Condition} {body : Rule.Body}
    (hr : (c.evaluate env).1.result = false) :
    (Rule.evaluate env ⟨c, body⟩).1 =
      .node true "Condition not met" (c.evaluate env).1.firstError (.notMet (c.evaluate env).1) := by
  simp only [Rule.evaluate, hr]
  rfl

theorem Rule.evaluate_demanded {c : Condition} {k : Consequence}
    (hr : (c.evaluate env).1.result = true) :
    (Rule.evaluate env ⟨c, .consequence k⟩).1 =
      .node (k.evaluate env).1.result
        (if (k.evaluate env).1.result then "Condition met and consequence satisfied"
          else "Consequence violated: " ++ k.render)
        (k.evaluate env).1.firstError (.demanded (c.evaluate env).1 (k.evaluate env).1) := by
  simp only [Rule.evaluate, hr]
  rfl

theorem Rule.evaluate_acted {c : Condition} {a : Action}
    (hr : (c.evaluate env).1.result = true) :
    (Rule.evaluate env ⟨c, .action a⟩).1 =
      .node true ("Action executed: " ++ a.verb.keyword) none
        (.acted (c.evaluate env).1 ⟨a.verb, a.target.render, a.label⟩) := by
  simp only [Rule.evaluate, hr]
  rfl

section Roots

variable {b : Bool} {reason : String} {condition consequence : Evidence}

theorem Evidence.failuresOneLine_notMet :
    (node b reason condition.firstError (.notMet condition)).FailuresOneLine ↔
      condition.FailuresOneLine :=
  failuresOneLine_iff_root.trans (and_iff_right_of_imp fun h _ hf => FailuresOneLine.firstError h hf)

theorem Evidence.failuresOneLine_demanded :
    (node b reason consequence.firstError (.demanded condition consequence)).FailuresOneLine ↔
      condition.FailuresOneLine ∧ consequence.FailuresOneLine := by
  rw [failuresOneLine_iff_root, details, nodesIn, List.forall_mem_append]
  exact and_iff_right_of_imp fun h _ hf => FailuresOneLine.firstError h.2 hf

theorem Evidence.failuresOneLine_acted {a : ActionRecord} :
    (node b reason none (.acted condition a)).FailuresOneLine ↔ condition.FailuresOneLine := by
  rw [failuresOneLine_iff_root, details, nodesIn]
  exact and_iff_right fun f hf => absurd (hf : none = some f) (Option.some_ne_none f).symm

end Roots

/-! ## Actions -/

theorem Condition.ShownBy.actions_eq_nil {c : Condition} {e : Evidence} (h : c.ShownBy env e)
    (depth : Nat) : (entriesAt depth e).filterMap Entry.action? = [] := by
  induction h generalizing depth with
  | logical hl hr hd ihl ihr =>
    rw [Evidence.entriesAt_eq, hd, entriesBelow, List.filterMap_cons, Entry.action?,
      List.filterMap_append, ihl, ihr, List.append_nil]
  | negation h hd ih =>
    rw [Evidence.entriesAt_eq, hd, entriesBelow, List.filterMap_cons, Entry.action?, ih]
  | missing _ _ hd => rw [Evidence.entriesAt_eq, hd]; rfl
  | comparison _ hd | membership _ hd | textTest _ hd | timeTest _ hd | truthiness _ hd =>
    rw [Evidence.entriesAt_eq, hd]
    rfl

theorem Consequence.ShownBy.actions_eq_nil {c : Consequence} {e : Evidence} (h : c.ShownBy env e)
    (depth : Nat) : (entriesAt depth e).filterMap Entry.action? = [] := by
  induction h generalizing depth with
  | logical hl hr hd ihl ihr =>
    rw [Evidence.entriesAt_eq, hd, entriesBelow, List.filterMap_cons, Entry.action?,
      List.filterMap_append, ihl, ihr, List.append_nil]
  | negation h hd ih =>
    rw [Evidence.entriesAt_eq, hd, entriesBelow, List.filterMap_cons, Entry.action?, ih]
  | missing _ _ hd => rw [Evidence.entriesAt_eq, hd]; rfl
  | comparison _ hd | membership _ hd | range _ hd | presence _ hd | truthiness _ hd =>
    rw [Evidence.entriesAt_eq, hd]
    rfl
  | literal hd =>
    rw [Evidence.entriesAt_eq, hd]
    rfl

/-- The action that a node records. -/
def Details.action? : Details → Option ActionRecord
  | .acted _ a => some a
  | _ => none

/-- Evidence for a rule records the action of its root, and no other. -/
theorem Rule.ShownBy.actions_eq {r : Rule} {e : Evidence} (h : r.ShownBy env e) :
    e.actions = e.details.action?.toList := by
  rw [Evidence.actions, Evidence.entries, Evidence.entriesAt_eq, List.filterMap_cons, Entry.action?]
  cases h with
  | notMet hc _ hd =>
    rw [hd, entriesBelow, hc.actions_eq_nil]
    rfl
  | demanded hc _ hk hd =>
    rw [hd, entriesBelow, List.filterMap_append, hc.actions_eq_nil, hk.actions_eq_nil]
    rfl
  | acted hc _ hd =>
    rw [hd, entriesBelow, List.filterMap_append, hc.actions_eq_nil]
    rfl

theorem Rule.actions_evaluate (env : Environment) (r : Rule) :
    (r.evaluate env).1.actions = (r.evaluate env).1.details.action?.toList :=
  (Rule.evaluate_shownBy r).actions_eq

/-- The line of an action is one line just in case its label is. -/
theorem Action.isOneLine_entry {a : Action} (h : a.IsCanonical) (depth : Nat) :
    Text.IsOneLine (Entry.action depth ⟨a.verb, a.target.render, a.label⟩).text.toList ↔
      Text.IsOneLine a.label.toList := by
  obtain ⟨verb, path, label, rfl, hpath⟩ := h.eq_variable
  have hverb : Text.IsOneLine verb.keyword.toList := by cases verb <;> decide
  have htarget : Text.IsOneLine (Operand.variable path).render.toList :=
    (Operand.isOneLine_render hpath.lexemes).2 noneBreaks_nil
  refine (Text.isOneLine_around (by decide)).trans (and_iff_right ?_)
  exact (Text.isOneLine_around (by decide)).2
    ⟨(Text.isOneLine_prefixed (by decide)).2 hverb, htarget⟩

/-! ## Lines -/

theorem Condition.reasonsOneLine_iff_shows {c : Condition} (h : c.IsCanonical) :
    (∀ n ∈ (c.evaluate env).1.nodes, Text.IsOneLine n.reason.toList) ↔
      (c.evaluate env).1.FailuresOneLine ∧ c.ShowsOneLine env :=
  Condition.reasonsOneLine_iff h.lexemes

section Exits

variable {c : Condition}

theorem Details.action?_notMet (condition : Evidence) : (Details.notMet condition).action? = none :=
  rfl

theorem Details.action?_demanded (condition consequence : Evidence) :
    (Details.demanded condition consequence).action? = none := rfl

theorem Rule.entriesOneLine_notMet {body : Rule.Body} (hc : c.IsCanonical)
    (hr : (c.evaluate env).1.result = false) :
    (∀ x ∈ (Rule.evaluate env ⟨c, body⟩).1.entries, Text.IsOneLine x.text.toList) ↔
      (Rule.evaluate env ⟨c, body⟩).1.FailuresOneLine ∧ c.ShowsOneLine env := by
  have hreason : Text.IsOneLine "Condition not met".toList := Text.isOneLine_ofList.2 (by decide)
  have hactions := Rule.actions_evaluate env ⟨c, body⟩
  rw [evaluate_notMet hr] at hactions ⊢
  rw [Evidence.forall_entries_iff, hactions, Evidence.failuresOneLine_notMet,
    Evidence.forall_nodes_iff, Evidence.details, nodesIn, Evidence.reason,
    Condition.reasonsOneLine_iff_shows hc, and_iff_right hreason, Details.action?_notMet,
    Option.toList_none, and_iff_left (List.forall_mem_nil _)]

theorem Rule.entriesOneLine_demanded {k : Consequence} (hc : c.IsCanonical) (hk : k.IsCanonical)
    (hr : (c.evaluate env).1.result = true) :
    (∀ x ∈ (Rule.evaluate env ⟨c, .consequence k⟩).1.entries, Text.IsOneLine x.text.toList) ↔
      (Rule.evaluate env ⟨c, .consequence k⟩).1.FailuresOneLine ∧ c.ShowsOneLine env ∧
        NoneBreaks k.marks := by
  have hactions := Rule.actions_evaluate env ⟨c, .consequence k⟩
  rw [evaluate_demanded hr] at hactions ⊢
  rw [Evidence.forall_entries_iff, hactions, Evidence.failuresOneLine_demanded,
    Evidence.forall_nodes_iff, Evidence.details, nodesIn, List.forall_mem_append, Evidence.reason,
    Condition.reasonsOneLine_iff_shows hc, Details.action?_demanded, Option.toList_none,
    and_iff_left (List.forall_mem_nil _), and_left_comm,
    ← Evidence.ReasonsOneLine, Consequence.reasonsOneLine_verdict hk.lexemes]
  constructor
  · rintro ⟨⟨hfc, hshows⟩, hfk, hmarks⟩
    exact ⟨⟨hfc, hfk⟩, hshows, hmarks⟩
  · rintro ⟨⟨hfc, hfk⟩, hshows, hmarks⟩
    exact ⟨⟨hfc, hshows⟩, hfk, hmarks⟩

theorem Rule.entriesOneLine_acted {a : Action} (hc : c.IsCanonical) (ha : a.IsCanonical)
    (hr : (c.evaluate env).1.result = true) :
    (∀ x ∈ (Rule.evaluate env ⟨c, .action a⟩).1.entries, Text.IsOneLine x.text.toList) ↔
      (Rule.evaluate env ⟨c, .action a⟩).1.FailuresOneLine ∧ c.ShowsOneLine env ∧
        Text.IsOneLine a.label.toList := by
  have hreason : Text.IsOneLine ("Action executed: " ++ a.verb.keyword).toList :=
    (Text.isOneLine_prefixed (by decide)).2 (by cases a.verb <;> decide)
  have hactions := Rule.actions_evaluate env ⟨c, .action a⟩
  rw [evaluate_acted hr] at hactions ⊢
  rw [Evidence.forall_entries_iff, hactions, Evidence.failuresOneLine_acted,
    Evidence.forall_nodes_iff, Evidence.details, nodesIn, Evidence.reason,
    Condition.reasonsOneLine_iff_shows hc, and_iff_right hreason, and_assoc, Details.action?,
    Option.toList_some, List.forall_mem_singleton]
  refine and_congr_right' (and_congr_right' ⟨fun h => ?_, fun h depth => ?_⟩)
  · exact (Action.isOneLine_entry ha 0).1 (h 0)
  · exact (Action.isOneLine_entry ha depth).2 h

end Exits

/-- The entries for a rule are of one line just in case its failures are, and the texts that they
show. -/
theorem Rule.entriesOneLine_iff {r : Rule} (h : r.IsCanonical) :
    (∀ x ∈ (r.evaluate env).1.entries, Text.IsOneLine x.text.toList) ↔
      (r.evaluate env).1.FailuresOneLine ∧ r.condition.ShowsOneLine env ∧
        ((r.condition.evaluate env).1.result = true → r.body.IsOneLine) := by
  obtain ⟨c, body⟩ := r
  cases hr : (c.evaluate env).1.result with
  | false =>
    rw [entriesOneLine_notMet h.condition hr]
    exact and_congr_right' (and_iff_left fun hholds => absurd hholds Bool.false_ne_true).symm
  | true =>
    rw [forall_prop_of_true rfl]
    cases body with
    | consequence k => exact entriesOneLine_demanded h.condition h.body hr
    | action a => exact entriesOneLine_acted h.condition h.body hr

/-- The outline of a decision shows the nodes of the evidence in their order, and the action that
was recorded. It has a line for each of these, and these are its lines, just in case no failure in
the evidence takes several lines to tell, and no text that the evidence shows has a line feed. -/
theorem Decision.outline_lines_iff {source : String} {r : Rule} {d : Decision}
    (h : Rule.parse source = .ok r) (hd : r.decide? env = some d) :
    d.outcome.entries.filterMap Entry.node? = d.outcome.nodes ∧
    d.outcome.entries.filterMap Entry.action? = d.outcome.details.action?.toList ∧
    ((Text.lines d.outcome.outline.toList).length = d.outcome.entries.length ↔
      d.outcome.FailuresOneLine ∧ r.condition.ShowsOneLine env ∧
        ((r.condition.evaluate env).1.result = true → r.body.IsOneLine)) ∧
    ((Text.lines d.outcome.outline.toList).length = d.outcome.entries.length →
      Text.lines d.outcome.outline.toList =
        d.outcome.entries.map fun x => Text.dropReturn x.line) := by
  have hentries : (∀ x ∈ d.outcome.entries, Text.IsOneLine x.text.toList) ↔
      d.outcome.FailuresOneLine ∧ r.condition.ShowsOneLine env ∧
        ((r.condition.evaluate env).1.result = true → r.body.IsOneLine) := by
    rw [Rule.eq_of_decide? hd]
    exact Rule.entriesOneLine_iff (Rule.isCanonical_of_parse h)
  refine ⟨Evidence.filterMap_node?_entriesAt 0 _, ?_, ?_, fun hlines => ?_⟩
  · rw [Rule.eq_of_decide? hd]
    exact Rule.actions_evaluate env r
  · rw [Evidence.length_lines_outline_iff, hentries]
  · exact Evidence.lines_outline (Evidence.length_lines_outline_iff.1 hlines)

/-- A quoted text with a line feed: two nodes, and a third line that looks like one. -/
theorem Decision.outline_lines_iff_forged :
    ∃ (r : Rule) (d : Decision),
      Rule.parse "WHEN a = 'x\n  [pass] b' THEN MUST TRUE" = .ok r ∧
      r.decide? ⟨⟨[]⟩, .epoch, .standard⟩ = some d ∧ d.outcome.entries.length = 2 ∧
      (Text.lines d.outcome.outline.toList).length ≠ 2 := by
  have hscan : Token.scan "WHEN a = 'x\n  [pass] b' THEN MUST TRUE" =
      .ok [⟨.word "WHEN", ⟨1, 1⟩⟩, ⟨.word "a", ⟨1, 6⟩⟩, ⟨.equal, ⟨1, 8⟩⟩,
        ⟨.text "x\n  [pass] b", ⟨1, 10⟩⟩, ⟨.word "THEN", ⟨2, 13⟩⟩, ⟨.word "MUST", ⟨2, 18⟩⟩,
        ⟨.word "TRUE", ⟨2, 23⟩⟩, ⟨.endOfInput, ⟨2, 27⟩⟩] := by decide +kernel
  have hparse := Rule.parse_of_read hscan (r := ⟨.comparison (.variable "a") .equal
    (.text "x\n  [pass] b"), .consequence (.literal true)⟩) rfl
  refine ⟨_, _, hparse, rfl, rfl, fun hlines => ?_⟩
  obtain ⟨-, -, hiff, -⟩ := @Decision.outline_lines_iff ⟨⟨[]⟩, .epoch, .standard⟩ _ _ _
    hparse rfl
  obtain ⟨-, hshows, -⟩ := hiff.1 hlines
  rcases hshows with hclean | ⟨-, herror⟩
  · exact absurd (hclean "x\n  [pass] b" (List.mem_singleton.2 rfl)) (by decide)
  · cases herror

end Compliance
