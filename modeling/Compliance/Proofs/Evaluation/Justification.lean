import Compliance.Decision

/-!
# Compliance.Proofs.Evaluation.Justification

Evidence shows every check of a rule, and every result in it follows from what it shows.

* `Operand.Resolves`         — the values of operands, or the first failure to get one.
* `Evidence.Justified`       — each result follows from the details of its node alone.
* `Condition.ShownBy`, `Consequence.ShownBy`, `Rule.ShownBy` — evidence of the shape of a tree,
  with the values of its operands.
* `Rule.decision_justified`  — the evidence of every decision is of both kinds.
-/

namespace Compliance

/-! ## What evidence has to show -/

/-- Operands are resolved from left to right, up to the first one that has no value. -/
inductive Operand.Resolves (env : Environment) : List Operand → Except Failure (List Value) → Prop
  where
  | nil : Resolves env [] (.ok [])
  | first {o : Operand} {os : List Operand} {e : Failure} (h : o.value env = .error e) :
      Resolves env (o :: os) (.error e)
  | later {o : Operand} {os : List Operand} {v : Value} {e : Failure} (h : o.value env = .ok v)
      (hs : Resolves env os (.error e)) : Resolves env (o :: os) (.error e)
  | cons {o : Operand} {os : List Operand} {v : Value} {vs : List Value}
      (h : o.value env = .ok v) (hs : Resolves env os (.ok vs)) :
      Resolves env (o :: os) (.ok (v :: vs))

/-- What the recorded values of a test come to. A test on time has to record the instant `now`. -/
def Details.outcome? (now : Instant) : Details → Option (Except Failure Bool)
  | .comparison left op right => some (left.compare op right)
  | .membership value isNegated values => some (.ok (value.isMember values != isNegated))
  | .range value lower upper => some (value.between lower upper)
  | .textTest value op pattern => some (value.textTest op pattern)
  | .timeTest value op reference recorded =>
    if recorded = now then some (value.timeTest op reference recorded) else none
  | .truthiness _ value => some (.ok value.isTruthy)
  | .presence _ demand value => some (.ok (demand.isMet !value.isNull))
  | .literal b => some (.ok b)
  | _ => none

/-- Every node has the result and the failure that its details imply. Without details there is
only a failure. -/
inductive Evidence.Justified (now : Instant) : Evidence → Prop where
  | missing {reason : String} {e : Failure} : Justified now (.node false reason (some e) .missing)
  | test {b : Bool} {reason : String} {details : Details}
      (h : details.outcome? now = some (.ok b)) : Justified now (.node b reason none details)
  | failure {e : Failure} {reason : String} {details : Details}
      (h : details.outcome? now = some (.error e)) :
      Justified now (.node false reason (some e) details)
  | logical {left right : Evidence} {op : Connective} {reason : String}
      (hl : Justified now left) (hr : Justified now right) :
      Justified now
        (.node (op.holds left.result right.result) reason none (.logical left op right))
  | negation {inner : Evidence} {reason : String} (h : Justified now inner)
      (he : inner.error = none) :
      Justified now (.node (!inner.result) reason none (.negation inner))
  | negatedFailure {inner : Evidence} {reason : String} {e : Failure} (h : Justified now inner)
      (he : inner.error = some e) : Justified now (.node false reason (some e) (.negation inner))
  | notMet {condition : Evidence} {reason : String} (h : Justified now condition)
      (hr : condition.result = false) :
      Justified now (.node true reason condition.firstError (.notMet condition))
  | demanded {condition consequence : Evidence} {reason : String} (h : Justified now condition)
      (hr : condition.result = true) (hc : Justified now consequence) :
      Justified now (.node consequence.result reason consequence.firstError
        (.demanded condition consequence))
  | acted {condition : Evidence} {reason : String} {a : ActionRecord}
      (h : Justified now condition) (hr : condition.result = true) :
      Justified now (.node true reason none (.acted condition a))

/-- The operands of a test. -/
def Condition.operands : Condition → List Operand
  | .comparison left _ right => [left, right]
  | .membership value values => value :: values
  | .textTest value _ pattern => [value, pattern]
  | .timeTest value _ reference => [value, reference]
  | .truthiness value => [value]
  | .logical _ _ _ => []
  | .negation _ => []

/-- Evidence of the shape of a condition. Where an operand of a test has no value, its failure
stands in place of the details. -/
inductive Condition.ShownBy (env : Environment) : Condition → Evidence → Prop where
  | missing {c : Condition} {e : Evidence} {f : Failure}
      (h : Operand.Resolves env c.operands (.error f)) (he : e.error = some f)
      (hd : e.details = .missing) : ShownBy env c e
  | comparison {left right : Operand} {op : Comparison} {l r : Value} {e : Evidence}
      (h : Operand.Resolves env [left, right] (.ok [l, r])) (hd : e.details = .comparison l op r) :
      ShownBy env (.comparison left op right) e
  | membership {value : Operand} {values : List Operand} {v : Value} {vs : List Value}
      {e : Evidence} (h : Operand.Resolves env (value :: values) (.ok (v :: vs)))
      (hd : e.details = .membership v false vs) : ShownBy env (.membership value values) e
  | textTest {value pattern : Operand} {op : TextTest} {v p : Value} {e : Evidence}
      (h : Operand.Resolves env [value, pattern] (.ok [v, p]))
      (hd : e.details = .textTest v op p) : ShownBy env (.textTest value op pattern) e
  | timeTest {value reference : Operand} {op : TimeTest} {v r : Value} {e : Evidence}
      (h : Operand.Resolves env [value, reference] (.ok [v, r]))
      (hd : e.details = .timeTest v op r env.now) : ShownBy env (.timeTest value op reference) e
  | truthiness {value : Operand} {v : Value} {e : Evidence}
      (h : Operand.Resolves env [value] (.ok [v])) (hd : e.details = .truthiness value.render v) :
      ShownBy env (.truthiness value) e
  | logical {left right : Condition} {op : Connective} {l r e : Evidence}
      (hl : ShownBy env left l) (hr : ShownBy env right r) (hd : e.details = .logical l op r) :
      ShownBy env (.logical left op right) e
  | negation {inner : Condition} {i e : Evidence} (h : ShownBy env inner i)
      (hd : e.details = .negation i) : ShownBy env (.negation inner) e

/-- The operands of a demand. -/
def Consequence.operands : Consequence → List Operand
  | .comparison left _ right => [left, right]
  | .membership value _ values => value :: values
  | .range value lower upper => [value, lower, upper]
  | .presence value _ => [value]
  | .truthiness value => [value]
  | .literal _ => []
  | .logical _ _ _ => []
  | .negation _ => []

/-- Evidence of the shape of a consequence. -/
inductive Consequence.ShownBy (env : Environment) : Consequence → Evidence → Prop where
  | missing {c : Consequence} {e : Evidence} {f : Failure}
      (h : Operand.Resolves env c.operands (.error f)) (he : e.error = some f)
      (hd : e.details = .missing) : ShownBy env c e
  | comparison {left right : Operand} {op : Comparison} {l r : Value} {e : Evidence}
      (h : Operand.Resolves env [left, right] (.ok [l, r])) (hd : e.details = .comparison l op r) :
      ShownBy env (.comparison left op right) e
  | membership {value : Operand} {isNegated : Bool} {values : List Operand} {v : Value}
      {vs : List Value} {e : Evidence}
      (h : Operand.Resolves env (value :: values) (.ok (v :: vs)))
      (hd : e.details = .membership v isNegated vs) :
      ShownBy env (.membership value isNegated values) e
  | range {value lower upper : Operand} {v lo hi : Value} {e : Evidence}
      (h : Operand.Resolves env [value, lower, upper] (.ok [v, lo, hi]))
      (hd : e.details = .range v lo hi) : ShownBy env (.range value lower upper) e
  | presence {value : Operand} {demand : Demand} {v : Value} {e : Evidence}
      (h : Operand.Resolves env [value] (.ok [v]))
      (hd : e.details = .presence value.render demand v) : ShownBy env (.presence value demand) e
  | literal {b : Bool} {e : Evidence} (hd : e.details = .literal b) : ShownBy env (.literal b) e
  | truthiness {value : Operand} {v : Value} {e : Evidence}
      (h : Operand.Resolves env [value] (.ok [v])) (hd : e.details = .truthiness value.render v) :
      ShownBy env (.truthiness value) e
  | logical {left right : Consequence} {op : Connective} {l r e : Evidence}
      (hl : ShownBy env left l) (hr : ShownBy env right r) (hd : e.details = .logical l op r) :
      ShownBy env (.logical left op right) e
  | negation {inner : Consequence} {i e : Evidence} (h : ShownBy env inner i)
      (hd : e.details = .negation i) : ShownBy env (.negation inner) e

/-- Evidence of the shape of a rule: its condition is always there, its body exactly when the
condition holds. -/
inductive Rule.ShownBy (env : Environment) : Rule → Evidence → Prop where
  | notMet {c : Condition} {body : Rule.Body} {condition e : Evidence}
      (hc : Condition.ShownBy env c condition) (hr : condition.result = false)
      (hd : e.details = .notMet condition) : ShownBy env ⟨c, body⟩ e
  | demanded {c : Condition} {k : Consequence} {condition consequence e : Evidence}
      (hc : Condition.ShownBy env c condition) (hr : condition.result = true)
      (hk : Consequence.ShownBy env k consequence)
      (hd : e.details = .demanded condition consequence) : ShownBy env ⟨c, .consequence k⟩ e
  | acted {c : Condition} {a : Action} {condition e : Evidence}
      (hc : Condition.ShownBy env c condition) (hr : condition.result = true)
      (hd : e.details = .acted condition ⟨a.verb, a.target.render, a.label⟩) :
      ShownBy env ⟨c, .action a⟩ e

/-! ## Operands -/

variable {env : Environment} {α β : Type}

/-- A reading that fails as the operands do, and otherwise makes use of their values. -/
def Reading.Uses (env : Environment) (os : List Operand) (r : Reading α)
    (use : List Value → α → Prop) : Prop :=
  match r.outcome with
  | .error f => Operand.Resolves env os (.error f)
  | .ok a => ∃ vs, Operand.Resolves env os (.ok vs) ∧ use vs a

namespace Reading

theorem Uses.done (a : α) : Uses env [] (Pure.pure a) fun vs b => vs = [] ∧ b = a :=
  ⟨[], .nil, rfl, rfl⟩

/-- One more operand is fetched in front of a reading. -/
theorem Uses.fetch (o : Operand) {os : List Operand} {next : Value → Reading α}
    {use : Value → List Value → α → Prop} (h : ∀ v, Uses env os (next v) (use v)) :
    Uses env (o :: os) (o.fetch env >>= next)
      fun vs a => ∃ v ws, vs = v :: ws ∧ use v ws a := by
  cases hv : o.value env with
  | error f =>
    have hr : (o.fetch env >>= next).outcome = .error f := by
      simp only [Bind.bind, Reading.bind, Operand.fetch, hv]
    rw [Uses, hr]
    exact .first hv
  | ok v =>
    have hr : (o.fetch env >>= next).outcome = (next v).outcome := by
      simp only [Bind.bind, Reading.bind, Operand.fetch, hv]
    have hnext := h v
    rw [Uses] at hnext
    rw [Uses, hr]
    split at hnext
    · exact .later hv hnext
    · obtain ⟨ws, hws, ha⟩ := hnext
      exact ⟨v :: ws, .cons hv hws, v, ws, rfl, ha⟩

theorem Uses.mono {os : List Operand} {r : Reading α} {use use' : List Value → α → Prop}
    (h : Uses env os r use) (hsub : ∀ vs a, use vs a → use' vs a) : Uses env os r use' := by
  rw [Uses] at h ⊢
  split
  · rename_i f hr
    rwa [hr] at h
  · rename_i a hr
    rw [hr] at h
    obtain ⟨vs, hvs, ha⟩ := h
    exact ⟨vs, hvs, hsub vs a ha⟩

theorem Uses.map {os : List Operand} {r : Reading α} {use : List Value → α → Prop} {f : α → β}
    (h : Uses env os r use) :
    Uses env os (r >>= fun a => Pure.pure (f a)) fun vs b => ∃ a, use vs a ∧ b = f a := by
  obtain ⟨outcome, references⟩ := r
  cases outcome with
  | error e => exact h
  | ok a =>
    obtain ⟨vs, hvs, ha⟩ := h
    exact ⟨vs, hvs, a, ha, rfl⟩

theorem Uses.fetchAll (os : List Operand) :
    Uses env os (Operand.fetchAll env os) fun vs ws => ws = vs := by
  induction os with
  | nil => exact ⟨[], .nil, rfl⟩
  | cons o os ih =>
    refine (Uses.fetch o fun v => ih.map).mono ?_
    rintro vs ws ⟨v, us, rfl, ws, rfl, rfl⟩
    rfl

/-- Two operands are fetched, one after the other. -/
theorem Uses.pair (o p : Operand) (join : Value → Value → α) :
    Uses env [o, p] (do let v ← o.fetch env; let w ← p.fetch env; Pure.pure (join v w))
      fun vs a => ∃ v w, vs = [v, w] ∧ a = join v w := by
  refine (Uses.fetch o fun v => .fetch p fun w => .done _).mono ?_
  rintro vs a ⟨v, _, rfl, w, _, rfl, rfl, rfl⟩
  exact ⟨v, w, rfl, rfl⟩

/-- An operand is fetched, and a list of operands behind it. -/
theorem Uses.list (o : Operand) (os : List Operand) (join : Value → List Value → α) :
    Uses env (o :: os)
      (do let v ← o.fetch env; let vs ← Operand.fetchAll env os; Pure.pure (join v vs))
      fun vs a => ∃ v ws, vs = v :: ws ∧ a = join v ws := by
  refine (Uses.fetch o fun v => (Uses.fetchAll os).map).mono ?_
  rintro vs a ⟨v, _, rfl, ws, rfl, rfl⟩
  exact ⟨v, ws, rfl, rfl⟩

theorem Uses.single (o : Operand) (f : Value → α) :
    Uses env [o] (do let v ← o.fetch env; Pure.pure (f v)) fun vs a => ∃ v, vs = [v] ∧ a = f v := by
  refine (Uses.fetch o fun v => .done _).mono ?_
  rintro vs a ⟨v, _, rfl, rfl, rfl⟩
  exact ⟨v, rfl, rfl⟩

/-- Three operands are fetched, one after the other. -/
theorem Uses.triple (o p q : Operand) (join : Value → Value → Value → α) :
    Uses env [o, p, q]
      (do let u ← o.fetch env; let v ← p.fetch env; let w ← q.fetch env; Pure.pure (join u v w))
      fun vs a => ∃ u v w, vs = [u, v, w] ∧ a = join u v w := by
  refine (Uses.fetch o fun u => Uses.pair p q _).mono ?_
  rintro vs a ⟨u, _, rfl, v, w, rfl, rfl⟩
  exact ⟨u, v, w, rfl, rfl⟩

end Reading

/-! ## Tests -/

theorem Evidence.details_settled (node : String) (outcome : Except Failure Bool)
    (details : Details) : (Evidence.settled node outcome details).details = details := by
  cases outcome <;> rfl

theorem Evidence.justified_settled {now : Instant} {outcome : Except Failure Bool}
    {details : Details} (h : details.outcome? now = some outcome) (node : String) :
    (Evidence.settled node outcome details).Justified now := by
  cases outcome with
  | ok b => exact .test h
  | error f => exact .failure h

/-- The evidence of a test tells the failure of an operand, or what is made of the values. -/
theorem Reading.Uses.settled {os : List Operand} {r : Reading (Except Failure Bool × Details)}
    {use : List Value → Except Failure Bool × Details → Prop} (h : Uses env os r use)
    {node : String} {P : Evidence → Prop}
    (hmissing : ∀ f, Operand.Resolves env os (.error f) → P (.failed f .missing))
    (huse : ∀ vs outcome details, Operand.Resolves env os (.ok vs) → use vs (outcome, details) →
      P (.settled node outcome details)) : P (r.settle node).1 := by
  rw [Uses] at h
  rw [Reading.settle]
  split at h
  · rename_i f hr
    rw [hr]
    exact hmissing f h
  · rename_i a hr
    obtain ⟨vs, hvs, ha⟩ := h
    rw [hr]
    exact huse vs a.1 a.2 hvs ha

theorem Reading.Uses.justified_settle {os : List Operand}
    {r : Reading (Except Failure Bool × Details)}
    {use : List Value → Except Failure Bool × Details → Prop} {now : Instant}
    (h : Uses env os r use)
    (huse : ∀ vs outcome details, use vs (outcome, details) → details.outcome? now = some outcome)
    (node : String) : (r.settle node).1.Justified now :=
  h.settled (fun _ _ => .missing) fun vs outcome details _ ha =>
    Evidence.justified_settled (huse vs outcome details ha) node

theorem Condition.shownBy_settle {c : Condition} {r : Reading (Except Failure Bool × Details)}
    {use : List Value → Except Failure Bool × Details → Prop}
    (h : Reading.Uses env c.operands r use)
    (huse : ∀ vs outcome details, Operand.Resolves env c.operands (.ok vs) →
      use vs (outcome, details) → ∀ e : Evidence, e.details = details → c.ShownBy env e)
    (node : String) : c.ShownBy env (r.settle node).1 :=
  h.settled (fun _ hres => .missing hres rfl rfl) fun vs outcome details hvs ha =>
    huse vs outcome details hvs ha _ (Evidence.details_settled node outcome details)

theorem Consequence.shownBy_settle {c : Consequence} {r : Reading (Except Failure Bool × Details)}
    {use : List Value → Except Failure Bool × Details → Prop}
    (h : Reading.Uses env c.operands r use)
    (huse : ∀ vs outcome details, Operand.Resolves env c.operands (.ok vs) →
      use vs (outcome, details) → ∀ e : Evidence, e.details = details → c.ShownBy env e)
    (node : String) : c.ShownBy env (r.settle node).1 :=
  h.settled (fun _ hres => .missing hres rfl rfl) fun vs outcome details hvs ha =>
    huse vs outcome details hvs ha _ (Evidence.details_settled node outcome details)

/-! ## Connectives -/

theorem Evidence.Justified.combined {now : Instant} {left right : Evidence}
    (hl : left.Justified now) (hr : right.Justified now) (node : String) (op : Connective) :
    (Evidence.combined node op left right).Justified now := .logical hl hr

theorem Evidence.Justified.negated {now : Instant} {inner : Evidence} (h : inner.Justified now)
    (node : String) : (Evidence.negated node inner).Justified now := by
  rw [Evidence.negated]
  cases he : inner.error with
  | none => exact .negation h he
  | some f => exact .negatedFailure h he

/-! ## Conditions and consequences -/

theorem Condition.evaluate_shownBy (c : Condition) : c.ShownBy env (c.evaluate env).1 := by
  induction c with
  | comparison left op right =>
    refine shownBy_settle (.pair left right _) ?_ _
    rintro vs outcome details hvs ⟨l, r, rfl, ⟨⟩⟩ e hd
    exact .comparison hvs hd
  | membership value values =>
    refine shownBy_settle (.list value values _) ?_ _
    rintro vs outcome details hvs ⟨v, ws, rfl, ⟨⟩⟩ e hd
    exact .membership hvs hd
  | textTest value op pattern =>
    refine shownBy_settle (.pair value pattern _) ?_ _
    rintro vs outcome details hvs ⟨v, p, rfl, ⟨⟩⟩ e hd
    exact .textTest hvs hd
  | timeTest value op reference =>
    refine shownBy_settle (.pair value reference _) ?_ _
    rintro vs outcome details hvs ⟨v, r, rfl, ⟨⟩⟩ e hd
    exact .timeTest hvs hd
  | logical left op right ihl ihr => exact .logical ihl ihr rfl
  | negation inner ih => exact .negation ih rfl
  | truthiness value =>
    refine shownBy_settle (.single value _) ?_ _
    rintro vs outcome details hvs ⟨v, rfl, ⟨⟩⟩ e hd
    exact .truthiness hvs hd

theorem Condition.evaluate_justified (c : Condition) :
    (c.evaluate env).1.Justified env.now := by
  induction c with
  | comparison left op right =>
    refine (Reading.Uses.pair left right _).justified_settle ?_ _
    rintro vs outcome details ⟨l, r, -, ⟨⟩⟩
    rfl
  | membership value values =>
    refine (Reading.Uses.list value values _).justified_settle ?_ _
    rintro vs outcome details ⟨v, ws, -, ⟨⟩⟩
    simp [Details.outcome?]
  | textTest value op pattern =>
    refine (Reading.Uses.pair value pattern _).justified_settle ?_ _
    rintro vs outcome details ⟨v, p, -, ⟨⟩⟩
    rfl
  | timeTest value op reference =>
    refine (Reading.Uses.pair value reference _).justified_settle ?_ _
    rintro vs outcome details ⟨v, r, -, ⟨⟩⟩
    exact if_pos rfl
  | logical left op right ihl ihr => exact ihl.combined ihr _ op
  | negation inner ih => exact ih.negated _
  | truthiness value =>
    refine (Reading.Uses.single value _).justified_settle ?_ _
    rintro vs outcome details ⟨v, -, ⟨⟩⟩
    rfl

theorem Demand.finding_cases (demand : Demand) (value : Operand) (operand : String) :
    (∃ f, Operand.Resolves env [value] (.error f) ∧
      (demand.finding operand (value.fetch env)).1 = .failed f .missing) ∨
      ∃ v, Operand.Resolves env [value] (.ok [v]) ∧
        (demand.finding operand (value.fetch env)).1 =
          .node (demand.isMet !v.isNull) (demand.reason operand !v.isNull) none
            (.presence operand demand v) := by
  cases h : value.value env with
  | error f => exact .inl ⟨f, .first h, by simp only [Demand.finding, Operand.fetch, h]⟩
  | ok v => exact .inr ⟨v, .cons h .nil, by simp only [Demand.finding, Operand.fetch, h]⟩

theorem Consequence.evaluate_shownBy (c : Consequence) : c.ShownBy env (c.evaluate env).1 := by
  induction c with
  | comparison left op right =>
    refine shownBy_settle (.pair left right _) ?_ _
    rintro vs outcome details hvs ⟨l, r, rfl, ⟨⟩⟩ e hd
    exact .comparison hvs hd
  | membership value isNegated values =>
    refine shownBy_settle (.list value values _) ?_ _
    rintro vs outcome details hvs ⟨v, ws, rfl, ⟨⟩⟩ e hd
    exact .membership hvs hd
  | range value lower upper =>
    refine shownBy_settle (.triple value lower upper _) ?_ _
    rintro vs outcome details hvs ⟨v, lo, hi, rfl, ⟨⟩⟩ e hd
    exact .range hvs hd
  | presence value demand =>
    rcases demand.finding_cases value value.render with ⟨f, hres, hf⟩ | ⟨v, hres, hv⟩
    · exact .missing hres (by rw [evaluate, hf]; rfl) (by rw [evaluate, hf]; rfl)
    · exact .presence hres (by rw [evaluate, hv]; rfl)
  | logical left op right ihl ihr => exact .logical ihl ihr rfl
  | negation inner ih => exact .negation ih rfl
  | literal b => exact .literal rfl
  | truthiness value =>
    refine shownBy_settle (.single value _) ?_ _
    rintro vs outcome details hvs ⟨v, rfl, ⟨⟩⟩ e hd
    exact .truthiness hvs hd

theorem Consequence.evaluate_justified (c : Consequence) :
    (c.evaluate env).1.Justified env.now := by
  induction c with
  | comparison left op right =>
    refine (Reading.Uses.pair left right _).justified_settle ?_ _
    rintro vs outcome details ⟨l, r, -, ⟨⟩⟩
    rfl
  | membership value isNegated values =>
    refine (Reading.Uses.list value values _).justified_settle ?_ _
    rintro vs outcome details ⟨v, ws, -, ⟨⟩⟩
    rfl
  | range value lower upper =>
    refine (Reading.Uses.triple value lower upper _).justified_settle ?_ _
    rintro vs outcome details ⟨v, lo, hi, -, ⟨⟩⟩
    rfl
  | presence value demand =>
    rw [evaluate]
    rcases demand.finding_cases value value.render with ⟨f, -, hf⟩ | ⟨v, -, hv⟩
    · rw [hf]
      exact .missing
    · rw [hv]
      exact .test rfl
  | logical left op right ihl ihr => exact ihl.combined ihr _ op
  | negation inner ih => exact ih.negated _
  | literal b => exact .test rfl
  | truthiness value =>
    refine (Reading.Uses.single value _).justified_settle ?_ _
    rintro vs outcome details ⟨v, -, ⟨⟩⟩
    rfl

/-! ## Rules -/

theorem Rule.evaluate_shownBy (r : Rule) : r.ShownBy env (r.evaluate env).1 := by
  obtain ⟨c, body⟩ := r
  have hc : c.ShownBy env (c.evaluate env).1 := c.evaluate_shownBy
  simp only [Rule.evaluate]
  split
  · rename_i h
    exact .notMet hc (by simpa using h) rfl
  · rename_i h
    have hr : (c.evaluate env).1.result = true := by simpa using h
    cases body with
    | consequence k => exact .demanded hc hr k.evaluate_shownBy rfl
    | action a => exact .acted hc hr rfl

theorem Rule.evaluate_justified (r : Rule) : (r.evaluate env).1.Justified env.now := by
  have hc : (r.condition.evaluate env).1.Justified env.now := r.condition.evaluate_justified
  simp only [Rule.evaluate]
  split
  · rename_i h
    exact .notMet hc (by simpa using h)
  · rename_i h
    have hr : (r.condition.evaluate env).1.result = true := by simpa using h
    split
    · rename_i k _
      exact .demanded hc hr k.evaluate_justified
    · exact .acted hc hr

/-- The evidence of a decision shows the whole rule, and each of its results follows from what it
shows, at the instant of the decision. -/
theorem Rule.decision_justified {rule : Rule} {d : Decision} (h : rule.decide? env = some d) :
    d.evaluatedAt = env.now ∧ rule.ShownBy env d.outcome ∧ d.outcome.Justified d.evaluatedAt := by
  simp only [Rule.decide?] at h
  split at h
  · cases h
  · cases h
    exact ⟨rfl, rule.evaluate_shownBy, rule.evaluate_justified⟩

/-- A condition with a call that fails below `NOT`, and that holds all the same. -/
theorem Rule.decision_justified_failing_call :
    ∃ d : Decision,
      Rule.decide? ⟨⟨[("open", .bool true)]⟩, Instant.epoch, FunctionTable.empty⟩
        ⟨.logical (.negation (.truthiness (.call "LATER"))) .or (.truthiness (.variable "open")),
          .consequence (.presence (.variable "open") .required)⟩ = some d ∧
      d.evaluatedAt = Instant.epoch ∧
      Rule.ShownBy ⟨⟨[("open", .bool true)]⟩, Instant.epoch, FunctionTable.empty⟩
        ⟨.logical (.negation (.truthiness (.call "LATER"))) .or (.truthiness (.variable "open")),
          .consequence (.presence (.variable "open") .required)⟩ d.outcome ∧
      d.outcome.Justified d.evaluatedAt :=
  ⟨_, rfl, @Rule.decision_justified ⟨⟨[("open", .bool true)]⟩, Instant.epoch, FunctionTable.empty⟩
    ⟨.logical (.negation (.truthiness (.call "LATER"))) .or (.truthiness (.variable "open")),
      .consequence (.presence (.variable "open") .required)⟩ _ rfl⟩

end Compliance
