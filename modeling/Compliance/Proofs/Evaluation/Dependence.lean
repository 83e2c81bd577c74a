import Compliance.Decision
import Compliance.Proofs.Provenance

/-!
# Compliance.Proofs.Evaluation.Dependence

A decision depends on nothing but what its provenance lists.

* `Environment.AgreeOn`     — two environments answer some references alike.
* `Reading.Tracked`         — two readings that are equal where the references of the first are
  answered alike.
* `Condition.evaluate_tracked`, `Consequence.evaluate_tracked`, `Rule.evaluate_tracked` — findings
  in two environments.
* `Rule.decision_of_same_provenance` — decisions in two environments.
-/

namespace Compliance

/-- At one instant, both environments give the same answers to the references. -/
structure Environment.AgreeOn (env₁ env₂ : Environment) (rs : List Reference) : Prop where
  now : env₂.now = env₁.now
  paths : ∀ path, .variable path ∈ rs → env₂.context.resolve path = env₁.context.resolve path
  functions : ∀ name, .function name ∈ rs →
    env₂.functions.call name env₁.now = env₁.functions.call name env₁.now

namespace Environment

variable {env₁ env₂ : Environment} {rs ss : List Reference}

theorem AgreeOn.mono (h : AgreeOn env₁ env₂ ss) (hsub : rs ⊆ ss) : AgreeOn env₁ env₂ rs where
  now := h.now
  paths path hp := h.paths path (hsub hp)
  functions name hn := h.functions name (hsub hn)

theorem AgreeOn.left (h : AgreeOn env₁ env₂ (rs ++ ss)) : AgreeOn env₁ env₂ rs :=
  h.mono (List.subset_append_left rs ss)

theorem AgreeOn.right (h : AgreeOn env₁ env₂ (rs ++ ss)) : AgreeOn env₁ env₂ ss :=
  h.mono (List.subset_append_right rs ss)

end Environment

open Environment (AgreeOn)

variable {env₁ env₂ : Environment}

/-! ## Operands -/

/-- The second reading is the first one, if the environments agree on what the first one used. -/
def Reading.Tracked {α : Type} (env₁ env₂ : Environment) (r₁ r₂ : Reading α) : Prop :=
  AgreeOn env₁ env₂ r₁.references → r₂ = r₁

namespace Reading

variable {α β : Type}

theorem Tracked.pure (a : α) :
    Tracked env₁ env₂ (Pure.pure a : Reading α) (Pure.pure a) := fun _ => rfl

/-- What is read on depends on the value, and the value on the references in front of it. -/
theorem Tracked.bind {r₁ r₂ : Reading α} {next₁ next₂ : α → Reading β}
    (hr : Tracked env₁ env₂ r₁ r₂) (hnext : ∀ a, Tracked env₁ env₂ (next₁ a) (next₂ a)) :
    Tracked env₁ env₂ (r₁ >>= next₁) (r₂ >>= next₂) := by
  intro h
  obtain ⟨outcome, references⟩ := r₁
  cases outcome with
  | error e =>
    rw [hr h]
    rfl
  | ok a =>
    rw [hr h.left]
    show Reading.mk (next₂ a).outcome _ = Reading.mk (next₁ a).outcome _
    rw [hnext a h.right]

end Reading

theorem Operand.fetch_tracked (o : Operand) :
    Reading.Tracked env₁ env₂ (o.fetch env₁) (o.fetch env₂) := by
  intro h
  have hvalue : o.value env₂ = o.value env₁ := by
    cases o with
    | «variable» path =>
      simp only [Operand.value]
      rw [h.paths path List.mem_cons_self]
    | call name =>
      simp only [Operand.value]
      rw [h.now, h.functions name List.mem_cons_self]
    | _ => rfl
  rw [Operand.fetch, Operand.fetch, hvalue]

theorem Operand.fetchAll_tracked (os : List Operand) :
    Reading.Tracked env₁ env₂ (Operand.fetchAll env₁ os) (Operand.fetchAll env₂ os) := by
  induction os with
  | nil => exact .pure []
  | cons o os ih => exact .bind o.fetch_tracked fun v => .bind ih fun vs => .pure (v :: vs)

/-! ## Findings -/

/-- The second finding is the first one, if the environments agree on what the first one used. -/
def Finding.Tracked (env₁ env₂ : Environment) (f₁ f₂ : Finding) : Prop :=
  AgreeOn env₁ env₂ f₁.2 → f₂ = f₁

theorem Reading.Tracked.settle {r₁ r₂ : Reading (Except Failure Bool × Details)}
    (h : Reading.Tracked env₁ env₂ r₁ r₂) (node : String) :
    Finding.Tracked env₁ env₂ (r₁.settle node) (r₂.settle node) := by
  intro hagree
  have hreferences : (r₁.settle node).2 = r₁.references := by
    rw [Reading.settle]
    split <;> rfl
  rw [h (hreferences ▸ hagree)]

theorem Demand.finding_tracked (demand : Demand) (operand : String) {r₁ r₂ : Reading Value}
    (h : Reading.Tracked env₁ env₂ r₁ r₂) :
    Finding.Tracked env₁ env₂ (demand.finding operand r₁) (demand.finding operand r₂) := by
  intro hagree
  have hreferences : (demand.finding operand r₁).2 = r₁.references := by
    rw [Demand.finding]
    split <;> rfl
  rw [h (hreferences ▸ hagree)]

theorem Finding.Tracked.combine {f₁ f₂ g₁ g₂ : Finding} (hf : Finding.Tracked env₁ env₂ f₁ f₂)
    (hg : Finding.Tracked env₁ env₂ g₁ g₂) (node : String) (op : Connective) :
    Finding.Tracked env₁ env₂ (Finding.combine node op f₁ g₁) (Finding.combine node op f₂ g₂) := by
  intro h
  rw [hf h.left, hg h.right]

theorem Finding.Tracked.negate {f₁ f₂ : Finding} (hf : Finding.Tracked env₁ env₂ f₁ f₂)
    (node : String) :
    Finding.Tracked env₁ env₂ (Finding.negate node f₁) (Finding.negate node f₂) := by
  intro h
  rw [hf h]

/-- Two operands that are fetched one after the other. -/
theorem Operand.fetch_both_tracked {α : Type} (o p : Operand) {join₁ join₂ : Value → Value → α}
    (hjoin : env₂.now = env₁.now → join₂ = join₁) :
    Reading.Tracked env₁ env₂
      (do let v ← o.fetch env₁; let w ← p.fetch env₁; pure (join₁ v w))
      (do let v ← o.fetch env₂; let w ← p.fetch env₂; pure (join₂ v w)) := by
  intro h
  rw [hjoin h.now]
  exact Reading.Tracked.bind o.fetch_tracked
    (fun v => .bind p.fetch_tracked fun w => .pure (join₁ v w)) h

/-- An operand, and a list of operands that is fetched behind it. -/
theorem Operand.fetch_list_tracked {α : Type} (o : Operand) (os : List Operand)
    (join : Value → List Value → α) :
    Reading.Tracked env₁ env₂
      (do let v ← o.fetch env₁; let vs ← Operand.fetchAll env₁ os; pure (join v vs))
      (do let v ← o.fetch env₂; let vs ← Operand.fetchAll env₂ os; pure (join v vs)) :=
  .bind o.fetch_tracked fun v => .bind (Operand.fetchAll_tracked os) fun vs => .pure (join v vs)

theorem Operand.fetch_map_tracked {α : Type} (o : Operand) (f : Value → α) :
    Reading.Tracked env₁ env₂ (do let v ← o.fetch env₁; pure (f v))
      (do let v ← o.fetch env₂; pure (f v)) :=
  .bind o.fetch_tracked fun v => .pure (f v)

theorem Condition.evaluate_tracked (c : Condition) :
    Finding.Tracked env₁ env₂ (c.evaluate env₁) (c.evaluate env₂) := by
  induction c with
  | comparison left op right => exact (left.fetch_both_tracked right fun _ => rfl).settle _
  | membership value values => exact (value.fetch_list_tracked values _).settle _
  | textTest value op pattern => exact (value.fetch_both_tracked pattern fun _ => rfl).settle _
  | timeTest value op reference =>
    refine (value.fetch_both_tracked reference fun h => ?_).settle _
    rw [h]
  | logical left op right ihl ihr => exact ihl.combine ihr _ op
  | negation inner ih => exact ih.negate _
  | truthiness value => exact (value.fetch_map_tracked _).settle _

theorem Consequence.evaluate_tracked (c : Consequence) :
    Finding.Tracked env₁ env₂ (c.evaluate env₁) (c.evaluate env₂) := by
  induction c with
  | comparison left op right => exact (left.fetch_both_tracked right fun _ => rfl).settle _
  | membership value isNegated values => exact (value.fetch_list_tracked values _).settle _
  | range value lower upper =>
    exact (Reading.Tracked.bind value.fetch_tracked fun v =>
      lower.fetch_both_tracked upper fun _ => rfl).settle _
  | presence value demand => exact demand.finding_tracked _ value.fetch_tracked
  | logical left op right ihl ihr => exact ihl.combine ihr _ op
  | negation inner ih => exact ih.negate _
  | literal b => exact fun _ => rfl
  | truthiness value => exact (value.fetch_map_tracked _).settle _

/-! ## Rules -/

theorem Rule.references_condition_subset (r : Rule) :
    (r.condition.evaluate env₁).2 ⊆ (r.evaluate env₁).2 := by
  simp only [Rule.evaluate]
  split
  · exact fun _ h => h
  · split
    · exact List.subset_append_left _ _
    · exact fun _ h => h

theorem Rule.evaluate_tracked (r : Rule) :
    Finding.Tracked env₁ env₂ (r.evaluate env₁) (r.evaluate env₂) := by
  intro h
  have hcondition : r.condition.evaluate env₂ = r.condition.evaluate env₁ :=
    r.condition.evaluate_tracked (h.mono r.references_condition_subset)
  simp only [Rule.evaluate, hcondition] at h ⊢
  split
  · rfl
  · rename_i hmet
    rw [if_neg hmet] at h
    split
    · rename_i c hbody
      simp only [hbody] at h
      -- the consequence is reached in the first run, so its references are listed, too
      rw [c.evaluate_tracked h.right]
    · rfl

theorem FunctionTable.lacksValue_iff {t : FunctionTable} {name : String} {i : Instant} :
    t.lacksValue name i = true ↔ t.call name i = .error (.noValue name) := by
  simp only [lacksValue, call]
  cases t.find? name with
  | none => simp
  | some f => cases h : f i <;> simp [h]

/-- Whether a function has a value at the instant shows in the answer to its call. -/
theorem Environment.lacksValue_of_agreeOn {r : Reference} {rs : List Reference}
    (h : AgreeOn env₁ env₂ rs) (hr : r ∈ rs) : env₂.lacksValue r = env₁.lacksValue r := by
  cases r with
  | «variable» path => rfl
  | function name =>
    rw [Bool.eq_iff_iff, lacksValue, lacksValue, FunctionTable.lacksValue_iff,
      FunctionTable.lacksValue_iff, h.now, h.functions name hr]

/-- No data and no function that a decision does not list can change it. -/
theorem Rule.decision_of_same_provenance {rule : Rule} {now : Instant} {context₁ context₂ : Context}
    {functions₁ functions₂ : FunctionTable} {d : Decision}
    (h : rule.decide? ⟨context₁, now, functions₁⟩ = some d)
    (hpaths : ∀ path ∈ d.provenance.paths, context₂.resolve path = context₁.resolve path)
    (hfunctions : ∀ name ∈ d.provenance.functions,
      functions₂.call name now = functions₁.call name now) :
    rule.decide? ⟨context₂, now, functions₂⟩ = some d := by
  simp only [Rule.decide?] at h ⊢
  split at h
  · cases h
  · rename_i hvalues
    cases h
    have hagree : AgreeOn ⟨context₁, now, functions₁⟩ ⟨context₂, now, functions₂⟩
        (rule.evaluate ⟨context₁, now, functions₁⟩).2 :=
      { now := rfl
        paths := fun path hp => hpaths path (Provenance.mem_paths_ofReferences.2 hp)
        functions := fun name hn => hfunctions name (Provenance.mem_functions_ofReferences.2 hn) }
    rw [rule.evaluate_tracked hagree, if_neg]
    simp only [List.any_eq_true, not_exists, not_and, Bool.not_eq_true] at hvalues ⊢
    intro r hr
    rw [Environment.lacksValue_of_agreeOn hagree hr, hvalues r hr]

/-- A rule that calls `LIMIT` and reads `limit`. Another name in the data, and another function in
the table, change nothing. -/
theorem Rule.decision_of_same_provenance_limit :
    ∃ d : Decision,
      Rule.decide?
        ⟨⟨[("limit", .bool true), ("name", .text "a")]⟩, Instant.epoch,
          ⟨[("LIMIT", fun _ => some (.bool true))]⟩⟩
        ⟨.comparison (.call "LIMIT") .equal (.variable "limit"),
          .consequence (.truthiness (.variable "limit"))⟩ = some d ∧
      d.provenance = ⟨["limit"], ["LIMIT"]⟩ ∧
      Rule.decide?
        ⟨⟨[("limit", .bool true), ("name", .text "b")]⟩, Instant.epoch,
          ⟨[("LIMIT", fun _ => some (.bool true)), ("NOW", FunctionTable.now)]⟩⟩
        ⟨.comparison (.call "LIMIT") .equal (.variable "limit"),
          .consequence (.truthiness (.variable "limit"))⟩ = some d := by
  refine ⟨_, rfl, rfl, @Rule.decision_of_same_provenance _ _
    ⟨[("limit", .bool true), ("name", .text "a")]⟩ _ ⟨[("LIMIT", fun _ => some (.bool true))]⟩ _ _
    rfl ?_ ?_⟩
  · intro path hp
    obtain rfl : path = "limit" := List.mem_singleton.1 hp
    rfl
  · intro name hn
    obtain rfl : name = "LIMIT" := List.mem_singleton.1 hn
    rfl

end Compliance
