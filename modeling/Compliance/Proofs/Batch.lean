import Compliance.Command.Answer
import Compliance.Proofs.Evidence.Document
import Compliance.Proofs.Keyed
import Mathlib.Data.List.Forall2

/-!
# Compliance.Proofs.Batch

A batch tells of every entry of a rule set once, in the order of the rule set, and by itself.

* `Batch.Covers`       — the decisions on the entries that are rules, and the diagnostics of the
  others.
* `Batch.IsDocument`, `Batch.IsOutline` — what a batch shows, as a document and for people.
* `Invocation.run_batch` — what the command shows, and when it fails.
-/

namespace Compliance

namespace Batch

/-! ## Entries -/

/-- Every entry is told of once: by the decision on its rule alone, or by its diagnostic. -/
inductive Covers (env : Environment) :
    List RuleSet.Entry → List Judged → List (String × Diagnostic) → Prop where
  | nil : Covers env [] [] []
  | judged {e : RuleSet.Entry} {es : List RuleSet.Entry} {js : List Judged}
      {us : List (String × Diagnostic)} {rule : Rule} {d : Decision}
      (hrule : Rule.parse e.text = .ok rule) (hd : rule.decide? env = some d)
      (h : Covers env es js us) :
      Covers env (e :: es) (⟨e.id, rule, { d with ruleId := some e.id }⟩ :: js) us
  | unparsed {e : RuleSet.Entry} {es : List RuleSet.Entry} {js : List Judged}
      {us : List (String × Diagnostic)} {diagnostic : Diagnostic}
      (hrule : Rule.parse e.text = .error diagnostic) (h : Covers env es js us) :
      Covers env (e :: es) js ((e.id, diagnostic) :: us)

variable {env : Environment} {entries : List RuleSet.Entry} {judged : List Judged}
  {unparsed : List (String × Diagnostic)}

theorem rules_cons_ok {e : RuleSet.Entry} {es : List RuleSet.Entry} {rule : Rule}
    (h : Rule.parse e.text = .ok rule) : rules (e :: es) = (e.id, rule) :: rules es :=
  List.filterMap_cons_some (by rw [h])

theorem rules_cons_error {e : RuleSet.Entry} {es : List RuleSet.Entry} {d : Diagnostic}
    (h : Rule.parse e.text = .error d) : rules (e :: es) = rules es :=
  List.filterMap_cons_none (by rw [h])

theorem diagnostics_cons_ok {e : RuleSet.Entry} {es : List RuleSet.Entry} {rule : Rule}
    (h : Rule.parse e.text = .ok rule) : diagnostics (e :: es) = diagnostics es :=
  List.filterMap_cons_none (by rw [h])

theorem diagnostics_cons_error {e : RuleSet.Entry} {es : List RuleSet.Entry} {d : Diagnostic}
    (h : Rule.parse e.text = .error d) : diagnostics (e :: es) = (e.id, d) :: diagnostics es :=
  List.filterMap_cons_some (by rw [h])

theorem Covers.mapM_rules (h : Covers env entries judged unparsed) :
    (rules entries).mapM (fun (id, rule) => judge? env id rule) = some judged := by
  induction h with
  | nil => rfl
  | judged hrule hd _ ih =>
    rw [rules_cons_ok hrule, List.mapM_cons, ih]
    simp only [judge?, hd]
    rfl
  | unparsed hrule _ ih => rw [rules_cons_error hrule, ih]

theorem Covers.diagnostics_eq (h : Covers env entries judged unparsed) :
    diagnostics entries = unparsed := by
  induction h with
  | nil => rfl
  | judged hrule _ _ ih => rw [diagnostics_cons_ok hrule, ih]
  | unparsed hrule _ ih => rw [diagnostics_cons_error hrule, ih]

/-- A batch is split and joined again without mixing up the entries. -/
theorem Covers.ofEntries? (h : Covers env entries judged unparsed) :
    Batch.ofEntries? env entries = some ⟨judged, unparsed⟩ := by
  rw [Batch.ofEntries?, h.mapM_rules, h.diagnostics_eq]
  rfl

theorem exists_covers
    (h : ∀ e ∈ entries, ∀ rule, Rule.parse e.text = .ok rule → rule.decide? env ≠ none) :
    ∃ judged unparsed, Covers env entries judged unparsed := by
  induction entries with
  | nil => exact ⟨[], [], .nil⟩
  | cons e es ih =>
    obtain ⟨js, us, hcovers⟩ := ih fun e' he' => h e' (List.mem_cons_of_mem e he')
    cases hrule : Rule.parse e.text with
    | error diagnostic => exact ⟨_, _, .unparsed hrule hcovers⟩
    | ok rule =>
      obtain ⟨d, hd⟩ := Option.ne_none_iff_exists'.1 (h e List.mem_cons_self rule hrule)
      exact ⟨_, _, .judged hrule hd hcovers⟩

theorem Covers.length (h : Covers env entries judged unparsed) :
    judged.length + unparsed.length = entries.length := by
  induction h with
  | nil => rfl
  | judged _ _ _ ih => simp only [List.length_cons]; omega
  | unparsed _ _ ih => simp only [List.length_cons]; omega

/-! ## Documents -/

/-- How many rules hold. -/
def passing (judged : List Judged) : Nat := judged.countP fun j => j.decision.outcome.result

/-- How many rules do not hold. -/
def failing (judged : List Judged) : Nat := judged.countP fun j => !j.decision.outcome.result

theorem passing_add_failing (judged : List Judged) :
    passing judged + failing judged = judged.length := by
  rw [passing, failing, List.length_eq_countP_add_countP fun j => j.decision.outcome.result]
  simp

/-- The record of a decision: the canonical text of the rule, its digest, and the decision under the
name of the entry. -/
structure IsRecord (j : Judged) (doc : Json) : Prop where
  rule : doc.field? "rule" = some (.text j.rule.render)
  digest : doc.field? "rule_digest" = some (.text j.rule.digest)
  decision : ∃ decision, j.decision.toJson? = some decision ∧
    doc.field? "decision" = some decision ∧ decision.field? "rule_id" = some (.text j.id)

/-- The diagnostic of an entry under the name of the entry. -/
structure IsDiagnostic (entry : String × Diagnostic) (doc : Json) : Prop where
  id : doc.field? "id" = some (.text entry.1)
  kind : doc.field? "kind" = some (.text "parse_error")
  message : doc.field? "message" = some (.text entry.2.message)
  line : doc.field? "line" = some (.ofNat entry.2.position.line)
  column : doc.field? "column" = some (.ofNat entry.2.position.column)

structure IsSummary (judged : List Judged) (unparsed : List (String × Diagnostic)) (doc : Json) :
    Prop where
  total : doc.field? "total" = some (.ofNat (judged.length + unparsed.length))
  passed : doc.field? "passed" = some (.ofNat (passing judged))
  failed : doc.field? "failed" = some (.ofNat (failing judged))
  unparsed : doc.field? "unparsed" = some (.ofNat unparsed.length)

/-- One record for each decision and one for each diagnostic, in their order, and a summary. -/
structure IsDocument (judged : List Judged) (unparsed : List (String × Diagnostic)) (doc : Json) :
    Prop where
  records : ∃ docs, doc.field? "records" = some (.list docs) ∧ List.Forall₂ IsRecord judged docs
  errors : ∃ docs, doc.field? "parse_errors" = some (.list docs) ∧
    List.Forall₂ IsDiagnostic unparsed docs
  summary : ∃ s, doc.field? "summary" = some s ∧ IsSummary judged unparsed s

theorem Covers.exists_document (h : Covers env entries judged unparsed)
    (hwritable : env.now.isWritable = true) :
    ∀ j ∈ judged, (∃ doc, j.decision.document = .ok doc) ∧ j.decision.ruleId = some j.id := by
  induction h with
  | nil => simp
  | judged hrule hd _ ih =>
    exact List.forall_mem_cons.2 ⟨⟨(Decision.exists_document_iff hd _).2 hwritable, rfl⟩, ih⟩
  | unparsed _ _ ih => exact ih

theorem isRecord_record {j : Judged} {decision : Json} (h : j.decision.document = .ok decision)
    (hid : j.decision.ruleId = some j.id) : IsRecord j (record j.rule j.decision) := by
  have htoJson : j.decision.toJson? = some decision := by
    rw [Decision.toJson?, h]
    rfl
  refine ⟨by simp [record], by simp [record], decision, htoJson, ?_, ?_⟩
  · simp [record, h]
  · obtain ⟨evaluatedAt, -, h⟩ := Except.bind_eq_ok h
    obtain ⟨outcome, -, h⟩ := Except.bind_eq_ok h
    cases h
    simp [Json.ofPresent, hid]

theorem isDiagnostic_toJsonWith (id : String) (d : Diagnostic) :
    IsDiagnostic (id, d) (d.toJsonWith [("id", .text id)]) := by
  constructor <;> simp [Diagnostic.toJsonWith]

variable {b : Batch}

theorem failed_eq : b.failed = failing b.judged := by
  have hsum := passing_add_failing b.judged
  rw [passing] at hsum
  rw [failed, passed]
  omega

theorem isSummary_summary : IsSummary b.judged b.unparsed b.summary := by
  constructor <;> simp [summary, total, passed, passing, failed_eq]

theorem isDocument_toJson (hdocuments : ∀ j ∈ b.judged,
    (∃ doc, j.decision.document = .ok doc) ∧ j.decision.ruleId = some j.id) :
    IsDocument b.judged b.unparsed b.toJson where
  records := by
    refine ⟨b.judged.map fun j => record j.rule j.decision, by simp [toJson], ?_⟩
    rw [List.forall₂_map_right_iff, List.forall₂_same]
    intro j hj
    obtain ⟨⟨doc, hdoc⟩, hid⟩ := hdocuments j hj
    exact isRecord_record hdoc hid
  errors := by
    refine ⟨b.unparsed.map fun entry => entry.2.toJsonWith [("id", .text entry.1)],
      by simp [toJson], ?_⟩
    rw [List.forall₂_map_right_iff, List.forall₂_same]
    exact fun entry _ => isDiagnostic_toJsonWith entry.1 entry.2
  summary := ⟨b.summary, by simp [toJson], isSummary_summary⟩

/-! ## Outlines -/

/-- The verdict on a rule, and below it the evidence of one that does not hold. -/
structure IsVerdict (quiet : Bool) (j : Judged) (block : String) : Prop where
  holds : j.decision.outcome.result = true → block = "PASS " ++ j.id ++ "\n"
  fails : j.decision.outcome.result = false →
    block = "FAIL " ++ j.id ++ "\n" ++ if quiet then "" else indented j.decision.outcome.outline

/-- The counts in words. -/
def counts (judged : List Judged) (unparsed : List (String × Diagnostic)) : String :=
  let number (n : Nat) : String := String.ofList (Text.digits n)
  number (judged.length + unparsed.length) ++ " rules: " ++
    number (passing judged) ++ " passed, " ++ number (failing judged) ++ " failed, " ++
    number unparsed.length ++ " unparsed\n"

/-- The verdicts, then a line for each entry that is no rule, then the counts. -/
def IsOutline (quiet : Bool) (judged : List Judged) (unparsed : List (String × Diagnostic))
    (text : String) : Prop :=
  ∃ verdicts errors,
    text = String.join verdicts ++ String.join errors ++
      (if quiet then "" else "\n" ++ counts judged unparsed) ∧
    List.Forall₂ (IsVerdict quiet) judged verdicts ∧
    List.Forall₂ (fun entry line => line = "ERROR " ++ entry.1 ++ ": " ++ entry.2.message ++ "\n")
      unparsed errors

theorem isVerdict_verdictLines (quiet : Bool) (j : Judged) :
    IsVerdict quiet j (verdictLines quiet j) where
  holds h := by simp [verdictLines, Decision.verdict, h]
  fails h := by simp [verdictLines, Decision.verdict, h]

theorem isOutline_outline (quiet : Bool) :
    IsOutline quiet b.judged b.unparsed (b.outline quiet) := by
  refine ⟨b.judged.map (verdictLines quiet),
    b.unparsed.map fun entry => diagnosticLine entry.1 entry.2, ?_, ?_, ?_⟩
  · rw [outline]
    simp [summaryLine, counts, total, passed, passing, failed_eq, String.append_assoc]
  · rw [List.forall₂_map_right_iff, List.forall₂_same]
    exact fun j _ => isVerdict_verdictLines quiet j
  · rw [List.forall₂_map_right_iff, List.forall₂_same]
    exact fun _ _ => rfl

end Batch

/-! ## The command -/

/-- What a batch shows in a format. -/
def Manner.Shows (m : Manner) (judged : List Judged) (unparsed : List (String × Diagnostic))
    (output : String) : Prop :=
  match m.format with
  | .text => Batch.IsOutline m.quiet judged unparsed output
  | .json => ∃ doc, Batch.IsDocument judged unparsed doc ∧ output = Manner.pretty doc

theorem Manner.shows_batch {m : Manner} {w : World} {rules context : String} {now : Instant}
    {entries : List RuleSet.Entry} {data : Context} {judged : List Judged}
    {unparsed : List (String × Diagnostic)} (hnow : w.instantOf m.now = .ok now)
    (hrules : w.readRuleSet rules = .ok entries) (hcontext : w.readContext context = .ok data)
    (hcovers : Batch.Covers ⟨data, now, .standard⟩ entries judged unparsed)
    (hwritable : now.isWritable = true) :
    ∃ output, m.Shows judged unparsed output ∧
      m.batch w rules context = .ok (some ⟨output,
        if unparsed.length == 0 then none
        else some (.unparsedRules unparsed.length entries.length)⟩) := by
  have hdocument : Batch.IsDocument judged unparsed (Batch.toJson ⟨judged, unparsed⟩) :=
    @Batch.isDocument_toJson ⟨judged, unparsed⟩ (hcovers.exists_document hwritable)
  have houtline :
      Batch.IsOutline m.quiet judged unparsed (Batch.outline m.quiet ⟨judged, unparsed⟩) :=
    @Batch.isOutline_outline ⟨judged, unparsed⟩ m.quiet
  refine ⟨match m.format with
    | .text => Batch.outline m.quiet ⟨judged, unparsed⟩
    | .json => pretty (Batch.toJson ⟨judged, unparsed⟩), ?_, ?_⟩
  · rw [Shows]
    cases m.format with
    | text => exact houtline
    | json => exact ⟨_, hdocument, rfl⟩
  · rw [batch, hnow, hrules, hcontext, ← hcovers.length]
    simp only [Bind.bind, Except.bind, hcovers.ofEntries?, Option.map_some]
    rfl

/-- A batch shows one record or verdict for every entry that is a rule and one error for every other
entry, in their order, each of them by its entry alone. It fails if there are other entries, and
says how many they are. -/
theorem Invocation.run_batch {i : Invocation} {w : World} {rules context pinned : String}
    {settings : Settings} {now : Instant} {entries : List RuleSet.Entry} {data : Context}
    (hcommand : i.command = .batch rules context)
    (hsettings : w.readSettings i.settings = .ok settings)
    (hpinned : i.now.or settings.now = some pinned)
    (hnow : Instant.ofText? pinned.toList = some now)
    (hrules : w.readRuleSet rules = .ok entries) (hcontext : w.readContext context = .ok data)
    (hdecides : ∀ e ∈ entries, ∀ rule, Rule.parse e.text = .ok rule →
      rule.decide? ⟨data, now, .standard⟩ ≠ none) :
    ∃ judged unparsed output,
      Batch.Covers ⟨data, now, .standard⟩ entries judged unparsed ∧
      Batch.passing judged + Batch.failing judged + unparsed.length = entries.length ∧
      (i.manner settings).Shows judged unparsed output ∧
      (unparsed = [] →
        (i.manner settings).batch w rules context = .ok (some ⟨output, none⟩) ∧
        i.run w = ⟨0, output, ""⟩) ∧
      (unparsed ≠ [] →
        (i.manner settings).batch w rules context =
          .ok (some ⟨output, some (.unparsedRules unparsed.length entries.length)⟩) ∧
        i.run w = ⟨1, output, if i.quiet then ""
          else (Complaint.unparsedRules unparsed.length entries.length).line
            (i.manner settings).format⟩) := by
  obtain ⟨judged, unparsed, hcovers⟩ := Batch.exists_covers hdecides
  have hinstant : w.instantOf (i.manner settings).now = .ok now := by
    simp only [Invocation.manner, hpinned, World.instantOf, hnow]
  obtain ⟨output, hshows, hbatch⟩ := Manner.shows_batch hinstant hrules hcontext hcovers
    (Instant.isWritable_of_ofText? hnow)
  have hcount : Batch.passing judged + Batch.failing judged + unparsed.length = entries.length := by
    rw [Batch.passing_add_failing, hcovers.length]
  refine ⟨judged, unparsed, output, hcovers, hcount, hshows, ?_, ?_⟩
  · rintro rfl
    refine ⟨hbatch, ?_⟩
    simp only [Invocation.run, hsettings, hcommand, Manner.answer, hbatch]
    rfl
  · intro hne
    have hlength : (unparsed.length == 0) = false := by simpa using hne
    rw [hlength] at hbatch
    refine ⟨hbatch, ?_⟩
    simp only [Invocation.run, hsettings, hcommand, Manner.answer, hbatch]
    rfl

/-- Two files: a rule set with an entry that is no rule, and a context. -/
def World.sample : World where
  read path :=
    if path == "rules.toml" then
      .ok ("[[rule]]\nid = \"r1\"\ntext = \"WHEN TRUE THEN MUST b\"\n" ++
        "[[rule]]\nid = \"r2\"\ntext = \"WHEN\"\n")
    else .ok "\x7b\"b\": true\x7d"
  clock := .epoch

/-- One of two entries is no rule. -/
theorem Invocation.run_batch_sample :
    ∃ judged unparsed output,
      Batch.passing judged + Batch.failing judged + unparsed.length = 2 ∧
      Batch.IsOutline false judged unparsed output ∧
      (⟨none, false, some "2024-06-01T12:00:00Z", none, .batch "rules.toml" "context.json"⟩ :
        Invocation).run World.sample =
          ⟨1, output, "error: 1 of 2 rules failed to parse\n"⟩ := by
  obtain ⟨now, hnow⟩ : ∃ now, Instant.ofText? "2024-06-01T12:00:00Z".toList = some now :=
    Option.isSome_iff_exists.1 (by decide +kernel)
  have hrules : World.sample.readRuleSet "rules.toml" =
      .ok [⟨"r1", "WHEN TRUE THEN MUST b"⟩, ⟨"r2", "WHEN"⟩] :=
    Except.eq_ok_of_toOption (by decide +kernel)
  obtain ⟨data, hcontext⟩ : ∃ data, World.sample.readContext "context.json" = .ok data :=
    Except.exists_eq_ok (by decide +kernel)
  have hrule : Rule.parse "WHEN TRUE THEN MUST b" =
      .ok ⟨.truthiness (.bool true), .consequence (.truthiness (.variable "b"))⟩ := by
    decide +kernel
  have hnone : (Rule.parse "WHEN").isOk = false := by decide +kernel
  have hline : (Complaint.unparsedRules 1 2).line .text =
      "error: 1 of 2 rules failed to parse\n" := by decide +kernel
  obtain ⟨judged, unparsed, output, hcovers, hcount, hshows, -, hfails⟩ :=
    @Invocation.run_batch
      ⟨none, false, some "2024-06-01T12:00:00Z", none, .batch "rules.toml" "context.json"⟩
      World.sample "rules.toml" "context.json" "2024-06-01T12:00:00Z" .empty now _ data rfl rfl rfl
      hnow hrules hcontext (by
        intro e he rule hparse
        rcases List.mem_pair.1 he with rfl | rfl
        · rw [hrule] at hparse
          cases hparse
          exact Option.some_ne_none _
        · rw [hparse] at hnone
          cases hnone)
  cases hcovers with
  | unparsed h =>
    rw [hrule] at h
    cases h
  | judged _ _ hcovers =>
    cases hcovers with
    | judged h =>
      rw [h] at hnone
      cases hnone
    | unparsed _ hcovers =>
      cases hcovers
      have hrun := (hfails (List.cons_ne_nil _ _)).2
      exact ⟨_, _, output, hcount, hshows, hrun.trans (congrArg (Outcome.mk 1 output) hline)⟩

end Compliance
