import Compliance.Decision
import Compliance.Diagnostic.Document
import Compliance.Evidence.Outline
import Compliance.Rule.Reading
import Compliance.RuleSet
import Compliance.Text.Lines

/-!
# Compliance.Batch

All rules of a rule set, each one decided by itself.

* `Batch`          — the decisions, and the entries that are no rules.
* `Batch.ofEntries?` — decides all rules of a rule set.
* `Batch.toJson`   — the records of a batch, its diagnostics and a summary.
* `Batch.outline`  — the same for people.
-/

namespace Compliance

/-- The decision on a rule of a rule set. -/
structure Judged where
  id : String
  rule : Rule
  decision : Decision

/-- What became of the entries of a rule set; both lists are in its order. -/
structure Batch where
  judged : List Judged
  unparsed : List (String × Diagnostic)

namespace Batch

/-- The entries that are rules. -/
def rules (entries : List RuleSet.Entry) : List (String × Rule) :=
  entries.filterMap fun e =>
    match Rule.parse e.text with
    | .ok rule => some (e.id, rule)
    | .error _ => none

/-- The entries that are no rules, and why. -/
def diagnostics (entries : List RuleSet.Entry) : List (String × Diagnostic) :=
  entries.filterMap fun e =>
    match Rule.parse e.text with
    | .ok _ => none
    | .error d => some (e.id, d)

/-- Decides a rule by itself; the decision carries the rule's name. -/
def judge? (env : Environment) (id : String) (rule : Rule) : Option Judged :=
  (rule.decide? env).map fun d => ⟨id, rule, { d with ruleId := some id }⟩

/-- Decides all rules of a rule set. There is no batch if one of them has no decision. -/
def ofEntries? (env : Environment) (entries : List RuleSet.Entry) : Option Batch :=
  ((rules entries).mapM fun (id, rule) => judge? env id rule).map fun judged =>
    ⟨judged, diagnostics entries⟩

def total (b : Batch) : Nat := b.judged.length + b.unparsed.length

def passed (b : Batch) : Nat := b.judged.countP fun j => j.decision.outcome.result

def failed (b : Batch) : Nat := b.judged.length - b.passed

/-! ## Documents -/

def summary (b : Batch) : Json :=
  .ofFields
    [("total", .ofNat b.total), ("passed", .ofNat b.passed), ("failed", .ofNat b.failed),
     ("unparsed", .ofNat b.unparsed.length)]

def toJson (b : Batch) : Json :=
  .ofFields
    [("records", .list (b.judged.map fun j => record j.rule j.decision)),
     ("parse_errors", .list (b.unparsed.map fun (id, d) => d.toJsonWith [("id", .text id)])),
     ("summary", b.summary)]

/-! ## Outline -/

/-- The lines of a text, each one behind four blanks. -/
def indented (text : String) : String :=
  String.join ((Text.lines text.toList).map fun line => "    " ++ String.ofList line ++ "\n")

/-- The verdict on a rule; the evidence of one that does not hold follows unless it is not
wanted. -/
def verdictLines (quiet : Bool) (j : Judged) : String :=
  j.decision.verdict ++ " " ++ j.id ++ "\n" ++
    (if quiet || j.decision.outcome.result then "" else indented j.decision.outcome.outline)

def diagnosticLine (id : String) (d : Diagnostic) : String :=
  "ERROR " ++ id ++ ": " ++ d.message ++ "\n"

/-- The summary on a line of its own behind an empty one. -/
def summaryLine (b : Batch) : String :=
  let number (n : Nat) : String := String.ofList (Text.digits n)
  "\n" ++ number b.total ++ " rules: " ++ number b.passed ++ " passed, " ++ number b.failed ++
    " failed, " ++ number b.unparsed.length ++ " unparsed\n"

/-- Verdicts, diagnostics and the summary. -/
def outline (quiet : Bool) (b : Batch) : String :=
  String.join (b.judged.map (verdictLines quiet)) ++
    String.join (b.unparsed.map fun (id, d) => diagnosticLine id d) ++
    (if quiet then "" else b.summaryLine)

end Batch

end Compliance
