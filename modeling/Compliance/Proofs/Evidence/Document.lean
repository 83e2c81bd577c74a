import Compliance.Decision
import Compliance.Proofs.Evaluation.Range
import Compliance.Proofs.Except
import Compliance.Proofs.Instant.Rfc3339

/-!
# Compliance.Proofs.Evidence.Document

Evidence and decisions have a document where every instant in them can be written.

* `Details.instant?`              — the instant that a test on time records.
* `Evidence.failsFirst_document`  — there is a document unless a node records an instant that cannot
  be written; the first of those is to blame.
* `Evidence.Justified.instant_eq` — evidence records no instant but that of the evaluation.
* `Evidence.Justified.exists_document_iff` — what this means for evidence as of one instant.
* `Decision.exists_document_iff`  — a decision tells its instant in any case.
-/

namespace Compliance

/-- The instant that a test on time records. -/
def Details.instant? : Details → Option Instant
  | .timeTest _ _ _ now => some now
  | _ => none

namespace Evidence

/-- The part of the instant recorded by a node that cannot be written. -/
def unwritable? (n : Evidence) : Option Instant.Component :=
  n.details.instant?.bind Instant.unwritable?

theorem unwritable?_of_instant? {n : Evidence} {details : Details} (hd : n.details = details)
    (h : details.instant? = none) : n.unwritable? = none := by
  rw [unwritable?, hd, h, Option.bind_none]

theorem failsFirst_written {n : Evidence} {t : Instant} (h : n.details.instant? = some t) :
    FailsFirst unwritable? [n] t.written := by
  intro part
  rw [List.findSome?_singleton, unwritable?, h, Option.bind_some, Instant.written]
  cases t.unwritable? <;> simp

mutual

theorem failsFirst_document : ∀ e : Evidence, FailsFirst unwritable? e.nodes e.document
  | .node result reason error details => by
    rw [nodes_eq, document]
    exact (failsFirst_detailsDocument details rfl).last _

/-- A node is written in front of those below it. -/
theorem failsFirst_detailsDocument : ∀ (details : Details) {n : Evidence}, n.details = details →
    FailsFirst unwritable? (n :: nodesIn details) (detailsDocument details)
  | .logical left _ right, _, hd =>
    .skip (unwritable?_of_instant? hd rfl)
      ((failsFirst_document left).bind fun _ => (failsFirst_document right).last _)
  | .negation inner, _, hd =>
    .skip (unwritable?_of_instant? hd rfl) ((failsFirst_document inner).last _)
  | .notMet condition, _, hd =>
    .skip (unwritable?_of_instant? hd rfl) ((failsFirst_document condition).last _)
  | .demanded condition consequence, _, hd =>
    .skip (unwritable?_of_instant? hd rfl)
      ((failsFirst_document condition).bind fun _ => (failsFirst_document consequence).last _)
  | .acted condition _, _, hd =>
    .skip (unwritable?_of_instant? hd rfl) ((failsFirst_document condition).last _)
  | .timeTest _ _ _ now, _, hd => (failsFirst_written (by rw [hd]; rfl)).last _
  | .missing, _, hd => .skip (unwritable?_of_instant? hd rfl) (.ok _)
  | .comparison .., _, hd => .skip (unwritable?_of_instant? hd rfl) (.ok _)
  | .membership .., _, hd => .skip (unwritable?_of_instant? hd rfl) (.ok _)
  | .range .., _, hd => .skip (unwritable?_of_instant? hd rfl) (.ok _)
  | .textTest .., _, hd => .skip (unwritable?_of_instant? hd rfl) (.ok _)
  | .truthiness .., _, hd => .skip (unwritable?_of_instant? hd rfl) (.ok _)
  | .presence .., _, hd => .skip (unwritable?_of_instant? hd rfl) (.ok _)
  | .literal _, _, hd => .skip (unwritable?_of_instant? hd rfl) (.ok _)

end

end Evidence

/-! ## Evidence as of one instant -/

theorem Details.instant?_eq_of_outcome {now t : Instant} {shown : Details}
    {outcome : Except Failure Bool} (h : shown.outcome? now = some outcome)
    (ht : shown.instant? = some t) : t = now := by
  cases shown with
  | timeTest value op reference recorded =>
    obtain rfl : recorded = t := Option.some.inj ht
    rw [outcome?] at h
    split at h
    · assumption
    · cases h
  | _ => cases ht

namespace Evidence

variable {now t : Instant} {e : Evidence}

/-- Evidence records no instant but that of the evaluation. -/
theorem Justified.instant_eq (h : e.Justified now) {n : Evidence} (hn : n ∈ e.nodes)
    (ht : n.details.instant? = some t) : t = now := by
  have hjust : n.Justified now := h.of_mem_nodes n hn
  cases hjust with
  | test h => exact Details.instant?_eq_of_outcome h ht
  | failure h => exact Details.instant?_eq_of_outcome h ht
  | missing | logical | negation | negatedFailure | notMet | demanded | acted => cases ht

/-- Where the instant of the evaluation cannot be written, there is a document just in case no node
records it. -/
theorem Justified.exists_document_iff (h : e.Justified now) :
    (∃ j, e.document = .ok j) ↔
      now.isWritable = true ∨ ∀ n ∈ e.nodes, n.details.instant? = none := by
  rw [e.failsFirst_document.exists_eq_ok_iff]
  constructor
  · intro hnone
    by_cases hwritable : now.isWritable = true
    · exact .inl hwritable
    · refine .inr fun n hn => ?_
      by_contra hsome
      obtain ⟨t, ht⟩ := Option.ne_none_iff_exists'.1 hsome
      have hpart := hnone n hn
      rw [unwritable?, ht, Option.bind_some, h.instant_eq hn ht] at hpart
      exact hwritable (Instant.unwritable?_eq_none_iff.1 hpart)
  · rintro (hwritable | hnone) n hn
    · cases ht : n.details.instant? with
      | none => exact unwritable?_of_instant? rfl ht
      | some t =>
        rw [unwritable?, ht, Option.bind_some, h.instant_eq hn ht]
        exact Instant.unwritable?_eq_none_iff.2 hwritable
    · exact unwritable?_of_instant? rfl (hnone n hn)

end Evidence

/-! ## Decisions -/

/-- A decision tells the instant of the evaluation in any case. -/
theorem Decision.exists_document_iff {env : Environment} {rule : Rule} {d : Decision}
    (h : rule.decide? env = some d) (ruleId : Option String) :
    (∃ j, ({ d with ruleId := ruleId } : Decision).document = .ok j) ↔
      env.now.isWritable = true := by
  rw [Rule.eq_of_decide? h]
  constructor
  · rintro ⟨j, hj⟩
    obtain ⟨s, hs, -⟩ := Except.bind_eq_ok hj
    exact Instant.isWritable_of_written hs
  · intro hwritable
    obtain ⟨outcome, houtcome⟩ :=
      rule.evaluate_justified.exists_document_iff.2 (.inl hwritable)
    simp only [document, Instant.written_of_isWritable hwritable, houtcome]
    exact ⟨_, rfl⟩

end Compliance
