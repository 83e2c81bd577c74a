import Compliance.Proofs.Evaluation.Justification
import Compliance.Proofs.Evidence
import Compliance.Proofs.Decision
import Compliance.Proofs.Value.Range

/-!
# Compliance.Proofs.Evaluation.Range

Evaluation stays in range, or an error is recorded where it leaves it.

* `Details.LeavesRange`         — a test leads out of the calendar.
* `Evidence.RecordsRange`       — a node shows values in range, and has an error where it has to.
* `Rule.recordsRange_evaluate`  — this is so for all nodes.
* `Rule.noDecision_iff_today`   — the one way in which there is no decision.
-/

namespace Compliance

/-! ## Operands -/

/-- An evaluation with the standard functions, on data in range. -/
structure Environment.Standard (env : Environment) : Prop where
  functions : env.functions = .standard
  data : ∀ path, (env.context.resolve path).InRange

variable {env : Environment}

theorem Operand.inRange_value (henv : env.Standard) {o : Operand} {v : Value}
    (h : o.value env = .ok v) : v.InRange := by
  cases o with
  | «variable» path =>
    cases h
    exact henv.data path
  | text s => cases h; exact .text s
  | number d => cases h; exact .number d
  | bool b => cases h; exact .bool b
  | instant t => cases h; exact .instant t
  | null => cases h; exact .null
  | span amount unit =>
    rw [value] at h
    split at h
    · rename_i s hs
      cases h
      exact .span (SpanUnit.inRange_of_span? hs)
    · cases h
  | call name =>
    rw [value, henv.functions] at h
    exact FunctionTable.inRange_call_standard h

theorem Operand.Resolves.inRange (henv : env.Standard) {os : List Operand} {vs : List Value}
    (h : Operand.Resolves env os (.ok vs)) : ∀ v ∈ vs, v.InRange := by
  induction os generalizing vs with
  | nil =>
    cases h
    exact List.forall_mem_nil _
  | cons o os ih =>
    cases h with
    | cons hv hvs => exact List.forall_mem_cons.2 ⟨Operand.inRange_value henv hv, ih hvs⟩

theorem Operand.Resolves.value_ok {os : List Operand} {vs : List Value}
    (h : Operand.Resolves env os (.ok vs)) {o : Operand} (ho : o ∈ os) :
    ∃ v, o.value env = .ok v := by
  induction os generalizing vs with
  | nil => cases ho
  | cons p os ih =>
    cases h with
    | cons hv hvs =>
      rcases List.mem_cons.1 ho with rfl | ho
      · exact ⟨_, hv⟩
      · exact ih hvs ho

/-! ## Tests that leave the calendar -/

/-- Is it a comparison by the order of values? -/
def Comparison.isOrder : Comparison → Bool
  | .greater | .greaterEqual | .less | .lessEqual => true
  | .equal | .notEqual | .like => false

/-- A number that is no moment of the calendar, and an instant it is to be ordered with. -/
inductive Value.Strays : Value → Value → Prop where
  | left {ms : Decimal} {t : Instant} (h : ms.LeavesCalendar) : Strays (.number ms) (.instant t)
  | right {ms : Decimal} {t : Instant} (h : ms.LeavesCalendar) : Strays (.instant t) (.number ms)

/-- A test that leads out of the calendar. Equality is not among them: there, a number that is no
moment just differs from all of them. -/
inductive Details.LeavesRange (now : Instant) : Details → Prop where
  | value {ms : Decimal} {op : TimeTest} {reference : Value} (h : ms.LeavesCalendar) :
      LeavesRange now (.timeTest (.number ms) op reference now)
  | reference {v : Value} {op : TimeTest} {ms : Decimal} (hop : op = .before ∨ op = .after)
      (h : ms.LeavesCalendar) : LeavesRange now (.timeTest v op (.number ms) now)
  | deadline {v : Value} {t : Instant} {w : Span} (hv : v.toInstant = .ok (some t))
      (h : ¬ Instant.InCalendar (t.nanos + w.nanos) t.offset) :
      LeavesRange now (.timeTest v .expires (.span w) now)
  | comparison {left right : Value} {op : Comparison} (hop : op.isOrder = true)
      (h : left.Strays right) : LeavesRange now (.comparison left op right)
  | range {v lower upper : Value} (h : v.Strays lower ∨ v.Strays upper) :
      LeavesRange now (.range v lower upper)

/-- The values that a test shows. -/
def Details.values : Details → List Value
  | .comparison left _ right => [left, right]
  | .membership value _ values => value :: values
  | .range value lower upper => [value, lower, upper]
  | .textTest value _ pattern => [value, pattern]
  | .timeTest value _ reference _ => [value, reference]
  | .truthiness _ value => [value]
  | .presence _ _ value => [value]
  | _ => []

theorem Value.toInstant_number {ms : Decimal} (h : ms.LeavesCalendar) :
    ∃ f, (Value.number ms).toInstant = .error f := by
  obtain ⟨o, ho⟩ := instantOfMillis_of_leavesCalendar h
  exact ⟨.overflow o, by rw [toInstant, ho]; rfl⟩

theorem Value.orderedInTime_error {v w : Value} {test : Ordering → Bool} {f : Failure}
    (h : v.toInstant = .error f ∨ w.toInstant = .error f) :
    ∃ g, orderedInTime v w test = .error g := by
  rw [orderedInTime]
  cases hv : v.toInstant with
  | error e => exact ⟨e, rfl⟩
  | ok t =>
    rcases h with h | h
    · rw [hv] at h
      cases h
    · exact ⟨f, by rw [h]⟩

theorem Value.timeTest_error {v : Value} {f : Failure} (h : v.toInstant = .error f) (op : TimeTest)
    (reference : Value) (now : Instant) : ∃ g, v.timeTest op reference now = .error g := by
  cases op with
  | before =>
    rw [timeTest, before]
    exact orderedInTime_error (.inl h)
  | after =>
    rw [timeTest, after]
    exact orderedInTime_error (.inl h)
  | within =>
    -- the window is looked at first, so that its failure can come instead
    simp only [timeTest, within, h]
    cases reference.toSpan with
    | error e => exact ⟨e, rfl⟩
    | ok w => exact ⟨f, rfl⟩
  | expires =>
    simp only [timeTest, expiresAfter, h]
    cases reference.toSpan with
    | error e => exact ⟨e, rfl⟩
    | ok w => exact ⟨f, rfl⟩

theorem Value.order_of_strays {v w : Value} (h : v.Strays w) :
    order v w = .error (.incomparable v w) := by
  cases h with
  | @left ms t h =>
    obtain ⟨f, hf⟩ := toInstant_number h
    have hnone : (Value.number ms).instant? = none := by rw [instant?, hf]
    simp [order, isNull, numberOrder?, number?, instantOrder?, isTemporal, hnone, spanOrder?]
  | @right ms t h =>
    obtain ⟨f, hf⟩ := toInstant_number h
    have hnone : (Value.number ms).instant? = none := by rw [instant?, hf]
    simp [order, isNull, numberOrder?, number?, instantOrder?, isTemporal, hnone, spanOrder?]

theorem Value.compare_error {v w : Value} {op : Comparison} {f : Failure}
    (hop : op.isOrder = true) (h : order v w = .error f) : v.compare op w = .error f := by
  have hordered (test : Ordering → Bool) : ordered v w test = .error f := by
    rw [ordered, h]
    rfl
  cases op with
  | greater | greaterEqual | less | lessEqual => exact hordered _
  | equal | notEqual | like => cases hop

theorem Value.between_error {v lower upper : Value}
    (h : (∃ f, order v lower = .error f) ∨ ∃ f, order v upper = .error f) :
    ∃ g, between v lower upper = .error g := by
  rw [between]
  cases hlower : order v lower with
  | error e => exact ⟨e, rfl⟩
  | ok o =>
    rcases h with ⟨f, h⟩ | ⟨f, h⟩
    · rw [hlower] at h
      cases h
    · exact ⟨f, by rw [h]⟩

/-- What leads out of the calendar fails. -/
theorem Details.LeavesRange.outcome_error {now : Instant} {details : Details}
    (h : details.LeavesRange now) : ∃ f, details.outcome? now = some (.error f) := by
  cases h with
  | @value ms op reference h =>
    obtain ⟨f, hf⟩ := Value.toInstant_number h
    obtain ⟨g, hg⟩ := Value.timeTest_error hf op reference now
    exact ⟨g, by rw [outcome?, if_pos rfl, hg]⟩
  | @reference v op ms hop h =>
    obtain ⟨f, hf⟩ := Value.toInstant_number h
    have htest : ∃ g, v.timeTest op (.number ms) now = .error g := by
      rcases hop with rfl | rfl
      · rw [Value.timeTest, Value.before]
        exact Value.orderedInTime_error (.inr hf)
      · rw [Value.timeTest, Value.after]
        exact Value.orderedInTime_error (.inr hf)
    obtain ⟨g, hg⟩ := htest
    exact ⟨g, by rw [outcome?, if_pos rfl, hg]⟩
  | @deadline v t w hv h =>
    have hshift : t.shift? w = none := Instant.of?_eq_none_iff.2 h
    have htest : v.timeTest .expires (.span w) now = .error (.overflow (.sum t w)) := by
      simp only [Value.timeTest, Value.expiresAfter, Value.toSpan, hv, hshift]
    exact ⟨_, by rw [outcome?, if_pos rfl, htest]⟩
  | @comparison left right op hop h =>
    exact ⟨_, congrArg some (Value.compare_error hop (Value.order_of_strays h))⟩
  | @range v lower upper h =>
    have horder : (∃ f, Value.order v lower = .error f) ∨ ∃ f, Value.order v upper = .error f := by
      rcases h with h | h
      · exact .inl ⟨_, Value.order_of_strays h⟩
      · exact .inr ⟨_, Value.order_of_strays h⟩
    obtain ⟨g, hg⟩ := Value.between_error horder
    exact ⟨g, congrArg some hg⟩

/-! ## Nodes -/

/-- A node shows values in range, and does not hold but has an error where an operand has no value,
and where a test leads out of the calendar. -/
structure Evidence.RecordsRange (now : Instant) (n : Evidence) : Prop where
  values : ∀ v ∈ n.details.values, v.InRange
  missing : n.details = .missing → n.FailsClosed
  leaves : n.details.LeavesRange now → n.FailsClosed

open Evidence (nodesIn forall_nodes_iff)

theorem Details.nodesIn_of_outcome {now : Instant} {details : Details}
    {outcome : Except Failure Bool} (h : details.outcome? now = some outcome) :
    nodesIn details = [] := by
  cases details with
  | logical | negation | notMet | demanded | acted => cases h
  | _ => rfl

theorem Evidence.Justified.of_mem_nodes {now : Instant} {e : Evidence} (h : e.Justified now) :
    ∀ n ∈ e.nodes, n.Justified now := by
  induction h with
  | missing => exact forall_nodes_iff.2 ⟨.missing, List.forall_mem_nil _⟩
  | @test b reason details h =>
    have hbelow : nodesIn details = [] := Details.nodesIn_of_outcome h
    exact forall_nodes_iff.2 ⟨.test h, by rw [Evidence.details, hbelow]; exact List.forall_mem_nil _⟩
  | @failure f reason details h =>
    have hbelow : nodesIn details = [] := Details.nodesIn_of_outcome h
    exact forall_nodes_iff.2 ⟨.failure h, by rw [Evidence.details, hbelow]; exact List.forall_mem_nil _⟩
  | logical hl hr ihl ihr =>
    exact forall_nodes_iff.2 ⟨.logical hl hr, List.forall_mem_append.2 ⟨ihl, ihr⟩⟩
  | negation h he ih => exact forall_nodes_iff.2 ⟨.negation h he, ih⟩
  | negatedFailure h he ih => exact forall_nodes_iff.2 ⟨.negatedFailure h he, ih⟩
  | notMet h hr ih => exact forall_nodes_iff.2 ⟨.notMet h hr, ih⟩
  | demanded h hr hc ih ihc =>
    exact forall_nodes_iff.2 ⟨.demanded h hr hc, List.forall_mem_append.2 ⟨ih, ihc⟩⟩
  | acted h hr ih => exact forall_nodes_iff.2 ⟨.acted h hr, ih⟩

theorem Evidence.Justified.failsClosed_of_missing {now : Instant} {n : Evidence}
    (h : n.Justified now) (hd : n.details = .missing) : n.FailsClosed := by
  cases h with
  | missing => exact ⟨rfl, Option.some_ne_none _⟩
  | test h =>
    obtain rfl : _ = Details.missing := hd
    cases h
  | failure h => exact ⟨rfl, Option.some_ne_none _⟩
  | _ => cases hd

theorem Evidence.Justified.failsClosed_of_outcome {now : Instant} {n : Evidence} {f : Failure}
    (h : n.Justified now) (hd : n.details.outcome? now = some (.error f)) : n.FailsClosed := by
  cases h with
  | missing => exact ⟨rfl, Option.some_ne_none _⟩
  | test h =>
    -- the values of a test have one outcome, and here it is a failure
    rw [Evidence.details, h] at hd
    cases hd
  | failure h => exact ⟨rfl, Option.some_ne_none _⟩
  | _ => cases hd

/-- All nodes of a tree show values in range. -/
def Evidence.ShowsInRange (e : Evidence) : Prop := ∀ n ∈ e.nodes, ∀ v ∈ n.details.values, v.InRange

theorem Evidence.showsInRange_iff {e : Evidence} :
    e.ShowsInRange ↔ (∀ v ∈ e.details.values, v.InRange) ∧
      ∀ n ∈ nodesIn e.details, ∀ v ∈ n.details.values, v.InRange := forall_nodes_iff

theorem Evidence.showsInRange_of_test {e : Evidence} {details : Details}
    (hd : e.details = details) (hbelow : nodesIn details = [])
    (hvalues : ∀ v ∈ details.values, v.InRange) : e.ShowsInRange := by
  rw [showsInRange_iff, hd, hbelow]
  exact ⟨hvalues, nofun⟩

theorem Condition.ShownBy.showsInRange (henv : env.Standard) {c : Condition} {e : Evidence}
    (h : c.ShownBy env e) : e.ShowsInRange := by
  induction h with
  | missing _ _ hd => exact Evidence.showsInRange_of_test hd rfl nofun
  | comparison h hd | membership h hd | textTest h hd | timeTest h hd | truthiness h hd =>
    exact Evidence.showsInRange_of_test hd rfl (h.inRange henv)
  | logical _ _ hd ihl ihr =>
    rw [Evidence.showsInRange_iff, hd]
    exact ⟨nofun, List.forall_mem_append.2 ⟨ihl, ihr⟩⟩
  | negation _ hd ih =>
    rw [Evidence.showsInRange_iff, hd]
    exact ⟨nofun, ih⟩

theorem Consequence.ShownBy.showsInRange (henv : env.Standard) {c : Consequence} {e : Evidence}
    (h : c.ShownBy env e) : e.ShowsInRange := by
  induction h with
  | missing _ _ hd => exact Evidence.showsInRange_of_test hd rfl nofun
  | literal hd => exact Evidence.showsInRange_of_test hd rfl nofun
  | comparison h hd | membership h hd | range h hd | presence h hd | truthiness h hd =>
    exact Evidence.showsInRange_of_test hd rfl (h.inRange henv)
  | logical _ _ hd ihl ihr =>
    rw [Evidence.showsInRange_iff, hd]
    exact ⟨nofun, List.forall_mem_append.2 ⟨ihl, ihr⟩⟩
  | negation _ hd ih =>
    rw [Evidence.showsInRange_iff, hd]
    exact ⟨nofun, ih⟩

theorem Rule.ShownBy.showsInRange (henv : env.Standard) {rule : Rule} {e : Evidence}
    (h : rule.ShownBy env e) : e.ShowsInRange := by
  rw [Evidence.showsInRange_iff]
  cases h with
  | notMet hc _ hd =>
    rw [hd]
    exact ⟨nofun, hc.showsInRange henv⟩
  | demanded hc _ hk hd =>
    rw [hd]
    exact ⟨nofun, List.forall_mem_append.2 ⟨hc.showsInRange henv, hk.showsInRange henv⟩⟩
  | acted hc _ hd =>
    rw [hd]
    exact ⟨nofun, hc.showsInRange henv⟩

/-! ## Operands without a value -/

theorem Condition.ShownBy.resolves {c : Condition} {e : Evidence} (h : c.ShownBy env e) :
    e.details = .missing ∨ ∃ vs, Operand.Resolves env c.operands (.ok vs) := by
  cases h with
  | missing _ _ hd => exact .inl hd
  | logical | negation => exact .inr ⟨_, .nil⟩
  | comparison h | membership h | textTest h | timeTest h | truthiness h => exact .inr ⟨_, h⟩

theorem Consequence.ShownBy.resolves {c : Consequence} {e : Evidence} (h : c.ShownBy env e) :
    e.details = .missing ∨ ∃ vs, Operand.Resolves env c.operands (.ok vs) := by
  cases h with
  | missing _ _ hd => exact .inl hd
  | logical | negation | literal => exact .inr ⟨_, .nil⟩
  | comparison h | membership h | range h | presence h | truthiness h => exact .inr ⟨_, h⟩

theorem Evidence.failsClosed_of_operand {now : Instant} {e : Evidence} {os : List Operand}
    (hjust : e.Justified now)
    (hshown : e.details = .missing ∨ ∃ vs, Operand.Resolves env os (.ok vs)) {o : Operand}
    (ho : o ∈ os) {f : Failure} (hvalue : o.value env = .error f) : e.FailsClosed := by
  rcases hshown with hd | ⟨vs, hvs⟩
  · exact hjust.failsClosed_of_missing hd
  · obtain ⟨v, hv⟩ := hvs.value_ok ho
    rw [hv] at hvalue
    cases hvalue

/-! ## Rules -/

theorem Rule.recordsRange_evaluate (henv : env.Standard) (rule : Rule) :
    ∀ n ∈ (rule.evaluate env).1.nodes, n.RecordsRange env.now := by
  intro n hn
  have hjust : n.Justified env.now := rule.evaluate_justified.of_mem_nodes n hn
  refine ⟨rule.evaluate_shownBy.showsInRange henv n hn, hjust.failsClosed_of_missing, ?_⟩
  intro hleaves
  obtain ⟨f, hf⟩ := hleaves.outcome_error
  exact hjust.failsClosed_of_outcome hf

theorem Environment.Standard.lacksValue_iff (henv : env.Standard) {r : Reference} :
    env.lacksValue r = true ↔ r = .function "TODAY" ∧ env.now.toUtc? = none := by
  cases r with
  | «variable» path => simp [Environment.lacksValue]
  | function name =>
    rw [Environment.lacksValue, henv.functions, FunctionTable.lacksValue_standard_iff]
    simp

/-- On the data of a document and with the standard functions, there is a decision unless `TODAY` is
called at an instant whose date in UTC is not in the calendar. All values in its evidence are in
range, as are the spans between instants, and a test has an error where an operand of it has no
value, or where it leads out of the calendar. -/
theorem Rule.noDecision_iff_today {doc : Json} (hdata : Context.ofJson doc = .ok env.context)
    (hfunctions : env.functions = .standard) (rule : Rule) :
    (rule.decide? env = none ↔
      env.now.toUtc? = none ∧ .function "TODAY" ∈ (rule.evaluate env).2) ∧
    (∀ d, rule.decide? env = some d → ∀ n ∈ d.outcome.nodes, n.RecordsRange env.now) ∧
    (∀ c : Condition, ∀ o ∈ c.operands, ∀ f, o.value env = .error f →
      (c.evaluate env).1.FailsClosed) ∧
    (∀ c : Consequence, ∀ o ∈ c.operands, ∀ f, o.value env = .error f →
      (c.evaluate env).1.FailsClosed) ∧
    ∀ t u : Instant, (t.since u).InRange := by
  have henv : env.Standard := ⟨hfunctions, Context.inRange_resolve hdata⟩
  refine ⟨?_, ?_, ?_, ?_, Instant.since_inRange⟩
  · -- of the references that are made, only `TODAY` can be to blame
    rw [Rule.noDecision_iff]
    simp only [henv.lacksValue_iff]
    constructor
    · rintro ⟨_, hr, rfl, hutc⟩
      exact ⟨hutc, hr⟩
    · rintro ⟨hutc, hr⟩
      exact ⟨_, hr, rfl, hutc⟩
  · intro d hd
    rw [Rule.eq_of_decide? hd]
    exact rule.recordsRange_evaluate henv
  · intro c o ho f hvalue
    exact Evidence.failsClosed_of_operand c.evaluate_justified c.evaluate_shownBy.resolves ho hvalue
  · intro c o ho f hvalue
    exact Evidence.failsClosed_of_operand c.evaluate_justified c.evaluate_shownBy.resolves ho hvalue

/-- Shortly before the end of the last day, an hour behind UTC. -/
def Instant.lastHalfHour : Instant := ⟨253402302600000000000, -3600, by decide⟩

/-- The first millisecond behind the last day. -/
def Decimal.tooLate : Decimal := (ofInt? 253402300800000).getD zero

theorem Decimal.leavesCalendar_tooLate : tooLate.LeavesCalendar := by
  have hnanos : tooLate.nanosOfMillis? = some 253402300800000000000 := by decide
  intro nanos h
  rw [hnanos] at h
  cases h
  decide

/-- There is no decision where `TODAY` is called then, and an error where a date is too late. -/
theorem Rule.noDecision_iff_today_lastHalfHour :
    Rule.decide? ⟨⟨[]⟩, Instant.lastHalfHour, .standard⟩
      ⟨.timeTest (.call "TODAY") .before (.call "NOW"), .consequence (.literal true)⟩ = none ∧
    ∃ d n, Rule.decide?
        ⟨⟨[("at", .number Decimal.tooLate)]⟩, Instant.lastHalfHour, .standard⟩
        ⟨.timeTest (.variable "at") .before (.call "NOW"), .consequence (.literal true)⟩ = some d ∧
      n ∈ d.outcome.nodes ∧ n.details.LeavesRange Instant.lastHalfHour ∧ n.FailsClosed := by
  constructor
  · have h := @Rule.noDecision_iff_today ⟨⟨[]⟩, Instant.lastHalfHour, .standard⟩ (.record [])
      rfl rfl ⟨.timeTest (.call "TODAY") .before (.call "NOW"), .consequence (.literal true)⟩
    exact h.1.2 ⟨rfl, by decide⟩
  · obtain ⟨-, hnodes, -⟩ := @Rule.noDecision_iff_today
      ⟨⟨[("at", .number Decimal.tooLate)]⟩, Instant.lastHalfHour, .standard⟩
      (.record [("at", .ofInt 253402300800000)]) rfl rfl
      ⟨.timeTest (.variable "at") .before (.call "NOW"), .consequence (.literal true)⟩
    have hleaves : (Details.timeTest (.number Decimal.tooLate) .before
        (.instant Instant.lastHalfHour) Instant.lastHalfHour).LeavesRange Instant.lastHalfHour :=
      .value Decimal.leavesCalendar_tooLate
    exact ⟨_, Evidence.node _ _ _ _, rfl, List.mem_cons_of_mem _ List.mem_cons_self, hleaves,
      (hnodes _ rfl _ (List.mem_cons_of_mem _ List.mem_cons_self)).leaves hleaves⟩

end Compliance
