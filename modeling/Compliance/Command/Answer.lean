import Compliance.Batch
import Compliance.Command.Arguments
import Compliance.Command.Complaint
import Compliance.Instant.Rfc3339
import Compliance.Rule.Tree

/-!
# Compliance.Command.Answer

What a command answers, as a function of the files it reads and of the clock.

* `World`          — the files and the clock.
* `Answer`         — what a command prints, and why it fails.
* `Manner.answer`  — the answer of a command.
* `Outcome`        — what is left of an answer: an exit code and two texts.
* `Invocation.run` — runs a command.
* `runArguments`   — runs what a command line asks for.
-/

namespace Compliance

/-- What a command depends on besides its arguments. -/
structure World where
  read : String → Except FileError String
  clock : Instant

/-- What a command prints, and why it fails. A command can print and fail. -/
structure Answer where
  output : String
  complaint : Option Complaint

namespace Answer

def ofOutput (output : String) : Answer := ⟨output, none⟩

end Answer

namespace World

def readFile (w : World) (path : String) : Except Complaint String :=
  (w.read path).mapError (.unreadable path)

def readRule (w : World) (path : String) : Except Complaint Rule := do
  let text ← w.readFile path
  (Rule.parse text).mapError (.notARule path)

def readContext (w : World) (path : String) : Except Complaint Context := do
  let text ← w.readFile path
  let doc ← (Json.ofText? text).mapError (.notJson path)
  (Context.ofJson doc).mapError (.notAContext path)

def readRuleSet (w : World) (path : String) : Except Complaint (List RuleSet.Entry) := do
  let text ← w.readFile path
  (RuleSet.ofText? text.toList).mapError (.notToml path text)

def readSettings (w : World) : Option String → Except Complaint Settings
  | none => .ok .empty
  | some path => do
    let text ← w.readFile path
    (Settings.ofText? text.toList).mapError (.notToml path text)

/-- The instant of an evaluation: the given one, or that of the clock. -/
def instantOf (w : World) : Option String → Except Complaint Instant
  | none => .ok w.clock
  | some text =>
    match Instant.ofText? text.toList with
    | some t => .ok t
    | none => .error (.notAnInstant text)

end World

/-! ## Commands -/

/-- How a command answers: in which format, how much, and as of which instant. -/
structure Manner where
  format : Format
  quiet : Bool
  now : Option String

namespace Manner

/-- A document on lines of its own. -/
def pretty (j : Json) : String := j.pretty ++ "\n"

/-- The canonical text of a rule, or its tree. -/
def parse (m : Manner) (w : World) (path : String) : Except Complaint Answer := do
  let rule ← w.readRule path
  .ok (.ofOutput (match m.format with
    | .text => rule.render ++ "\n"
    | .json => pretty rule.toJson))

/-- Whether a file is a rule. -/
def check (m : Manner) (w : World) (path : String) : Except Complaint Answer := do
  let rule ← w.readRule path
  let document := Json.ofFields
    [("file", .text path), ("valid", .bool true), ("rule_digest", .text rule.digest)]
  .ok (.ofOutput (match m.format with
    | .text => if m.quiet then "" else "ok: " ++ path ++ "\n"
    | .json => document.compact ++ "\n"))

/-- The verdict on a rule and the evidence for it. -/
def verdict (m : Manner) (path : String) (d : Decision) : String :=
  d.verdict ++ ": " ++ path ++ "\n" ++ (if m.quiet then "" else d.outcome.outline)

/-- The decision on a rule. There is no answer if there is no decision. -/
def eval (m : Manner) (w : World) (path context : String) : Except Complaint (Option Answer) := do
  let now ← w.instantOf m.now
  let rule ← w.readRule path
  let context ← w.readContext context
  .ok ((rule.decide? ⟨context, now, .standard⟩).map fun d =>
    .ofOutput (match m.format with
      | .text => m.verdict path d
      | .json => pretty (record rule d)))

/-- The decisions on all rules of a rule set; it fails if some entries are no rules. -/
def batch (m : Manner) (w : World) (rules context : String) :
    Except Complaint (Option Answer) := do
  let now ← w.instantOf m.now
  let entries ← w.readRuleSet rules
  let context ← w.readContext context
  .ok ((Batch.ofEntries? ⟨context, now, .standard⟩ entries).map fun b =>
    let output := match m.format with
      | .text => b.outline m.quiet
      | .json => pretty b.toJson
    let unparsed := b.unparsed.length
    ⟨output, if unparsed == 0 then none else some (.unparsedRules unparsed b.total)⟩)

def answer (m : Manner) (w : World) : Command → Except Complaint (Option Answer)
  | .parse rule => (m.parse w rule).map some
  | .check rule => (m.check w rule).map some
  | .eval rule context => m.eval w rule context
  | .batch rules context => m.batch w rules context

end Manner

/-! ## Outcomes -/

/-- What a run leaves behind: an exit code, what it prints, and what it prints as errors. -/
structure Outcome where
  code : Nat
  output : String
  errors : String
  deriving DecidableEq, Repr

namespace Outcome

/-- The outcome of a run that breaks off without an answer. -/
def aborted : Outcome := ⟨101, "", ""⟩

/-- The outcome of a run that fails; quiet ones say nothing. -/
def failed (format : Format) (quiet : Bool) (output : String) (c : Complaint) : Outcome :=
  ⟨1, output, if quiet then "" else c.line format⟩

def ofAnswer (format : Format) (quiet : Bool) (a : Answer) : Outcome :=
  match a.complaint with
  | none => ⟨0, a.output, ""⟩
  | some c => failed format quiet a.output c

end Outcome

namespace Invocation

/-- The manner that flags and settings give; flags count first. -/
def manner (i : Invocation) (s : Settings) : Manner :=
  ⟨(i.format.or s.format).getD .text, i.quiet, i.now.or s.now⟩

/-- Runs a command. A settings file that cannot be read is reported as the flags say. -/
def run (i : Invocation) (w : World) : Outcome :=
  match w.readSettings i.settings with
  | .error c => .failed (i.format.getD .text) i.quiet "" c
  | .ok settings =>
    let m := i.manner settings
    match m.answer w i.command with
    | .error c => .failed m.format m.quiet "" c
    | .ok none => .aborted
    | .ok (some a) => .ofAnswer m.format m.quiet a

end Invocation

/-- Runs the command that the words of a command line ask for. -/
def runArguments (words : List String) (w : World) : Outcome :=
  match Invocation.ofArguments? words with
  | .error e => ⟨2, "", e.message ++ "\n"⟩
  | .ok i => i.run w

end Compliance
