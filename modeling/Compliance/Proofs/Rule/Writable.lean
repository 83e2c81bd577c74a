import Compliance.Proofs.Instant.Rfc3339
import Compliance.Proofs.Rule.Canonical

/-!
# Compliance.Proofs.Rule.Writable

The rule of a text has a form in documents and texts: every instant in it has a year of four digits
and an offset of whole minutes.

* `Rule.render?`              — the text of a rule; there is none where an instant has no form.
* `Rule.render?_of_isWritable` — where every operand has a form, that text is the canonical one.
* `Operand.Derives.isWritable` — operands that are derived from tokens have a form.
* `Rule.isWritable_of_parse`  — so have rules that are parsed.
-/

namespace Compliance

/-! ## Operands that have a form -/

/-- Does the operand have a form in a document? An instant needs one in RFC 3339: a year of four
digits, an offset of whole minutes below a day. The amount of a span has sixty-four bits. -/
def Operand.isWritable : Operand → Bool
  | .instant t => t.isWritable
  | .span amount _ => Text.fitsInt64 amount
  | _ => true

def Condition.isWritable : Condition → Bool
  | .comparison left _ right => left.isWritable && right.isWritable
  | .membership value values => value.isWritable && values.all Operand.isWritable
  | .textTest value _ pattern => value.isWritable && pattern.isWritable
  | .timeTest value _ reference => value.isWritable && reference.isWritable
  | .logical left _ right => left.isWritable && right.isWritable
  | .negation inner => inner.isWritable
  | .truthiness value => value.isWritable

def Consequence.isWritable : Consequence → Bool
  | .comparison left _ right => left.isWritable && right.isWritable
  | .membership value _ values => value.isWritable && values.all Operand.isWritable
  | .range value lower upper => value.isWritable && lower.isWritable && upper.isWritable
  | .presence value _ => value.isWritable
  | .logical left _ right => left.isWritable && right.isWritable
  | .negation inner => inner.isWritable
  | .literal _ => true
  | .truthiness value => value.isWritable

def Rule.Body.isWritable : Rule.Body → Bool
  | .consequence c => c.isWritable
  | .action a => a.target.isWritable

def Rule.isWritable (r : Rule) : Bool := r.condition.isWritable && r.body.isWritable

/-! ## Texts that may be missing -/

/-- The text of an operand. An instant without a form in RFC 3339 has none. -/
def Operand.render? : Operand → Option String
  | .instant t => t.rfc3339?
  | v => some v.render

def Operand.renderList? (values : List Operand) : Option String := do
  return "[" ++ String.intercalate ", " (← values.mapM Operand.render?) ++ "]"

def Condition.render? : Condition → Option String
  | .comparison left op right => do
    return (← left.render?) ++ " " ++ op.keyword ++ " " ++ (← right.render?)
  | .membership value values => do
    return (← value.render?) ++ " IN " ++ (← Operand.renderList? values)
  | .textTest value op pattern => do
    return (← value.render?) ++ " " ++ op.keyword ++ " " ++ (← pattern.render?)
  | .timeTest value op reference => do
    return (← value.render?) ++ " " ++ op.phrase ++ " " ++ (← reference.render?)
  | .logical left op right => do
    return "(" ++ (← left.render?) ++ " " ++ op.keyword ++ " " ++ (← right.render?) ++ ")"
  | .negation inner => do return "NOT " ++ (← inner.render?)
  | .truthiness value => value.render?

def Consequence.render? : Consequence → Option String
  | .comparison left op right => do
    return (← left.render?) ++ " " ++ op.keyword ++ " " ++ (← right.render?)
  | .membership value false values => do
    return (← value.render?) ++ " IN " ++ (← Operand.renderList? values)
  | .membership value true values => do
    return (← value.render?) ++ " NOT IN " ++ (← Operand.renderList? values)
  | .range value lower upper => do
    return (← value.render?) ++ " BETWEEN " ++ (← lower.render?) ++ " AND " ++ (← upper.render?)
  | .presence value demand => do return demand.verb ++ " " ++ (← value.render?)
  | .logical left op right => do
    return "(" ++ (← left.render?) ++ " " ++ op.keyword ++ " " ++ (← right.render?) ++ ")"
  | .negation inner => do return "NOT " ++ (← inner.render?)
  | .literal b => some (if b then "TRUE" else "FALSE")
  | .truthiness value => value.render?

def Rule.Body.render? : Rule.Body → Option String
  | .consequence c => c.render?
  | .action a => do return a.verb.keyword ++ " " ++ (← a.target.render?) ++ " " ++ a.label

/-- The text of a rule. There is none if an instant in the rule has no form. -/
def Rule.render? (r : Rule) : Option String := do
  return "WHEN " ++ (← r.condition.render?) ++ " THEN MUST " ++ (← r.body.render?)

theorem Operand.render?_of_isWritable {v : Operand} (h : v.isWritable = true) :
    v.render? = some v.render := by
  cases v with
  | instant t =>
    have hwritable : t.isWritable = true := h
    rw [render?, render, Instant.rfc3339?_eq, if_pos hwritable]
  | _ => rfl

theorem Operand.renderList?_of_isWritable {vs : List Operand}
    (h : vs.all Operand.isWritable = true) :
    Operand.renderList? vs = some (Operand.renderList vs) := by
  have hitems : vs.mapM Operand.render? = some (vs.map Operand.render) := by
    induction vs with
    | nil => rfl
    | cons v rest ih =>
      obtain ⟨hv, hrest⟩ := Bool.and_eq_true_iff.1 (List.all_cons ▸ h)
      simp [render?_of_isWritable hv, ih hrest]
  simp [renderList?, renderList, hitems]

theorem Condition.render?_of_isWritable {c : Condition} (h : c.isWritable = true) :
    c.render? = some c.render := by
  induction c with
  | comparison left op right =>
    obtain ⟨hl, hr⟩ := Bool.and_eq_true_iff.1 h
    simp [render?, render, Operand.render?_of_isWritable hl, Operand.render?_of_isWritable hr]
  | membership value values =>
    obtain ⟨hl, hr⟩ := Bool.and_eq_true_iff.1 h
    simp [render?, render, Operand.render?_of_isWritable hl, Operand.renderList?_of_isWritable hr]
  | textTest value op pattern =>
    obtain ⟨hl, hr⟩ := Bool.and_eq_true_iff.1 h
    simp [render?, render, Operand.render?_of_isWritable hl, Operand.render?_of_isWritable hr]
  | timeTest value op reference =>
    obtain ⟨hl, hr⟩ := Bool.and_eq_true_iff.1 h
    simp [render?, render, Operand.render?_of_isWritable hl, Operand.render?_of_isWritable hr]
  | logical left op right ihl ihr =>
    obtain ⟨hl, hr⟩ := Bool.and_eq_true_iff.1 h
    simp [render?, render, ihl hl, ihr hr]
  | negation inner ih => simp [render?, render, ih h]
  | truthiness value => exact Operand.render?_of_isWritable h

theorem Consequence.render?_of_isWritable {c : Consequence} (h : c.isWritable = true) :
    c.render? = some c.render := by
  induction c with
  | comparison left op right =>
    obtain ⟨hl, hr⟩ := Bool.and_eq_true_iff.1 h
    simp [render?, render, Operand.render?_of_isWritable hl, Operand.render?_of_isWritable hr]
  | membership value isNegated values =>
    obtain ⟨hl, hr⟩ := Bool.and_eq_true_iff.1 h
    cases isNegated <;>
      simp [render?, render, Operand.render?_of_isWritable hl,
        Operand.renderList?_of_isWritable hr]
  | range value lower upper =>
    obtain ⟨hboth, hu⟩ := Bool.and_eq_true_iff.1 h
    obtain ⟨hv, hl⟩ := Bool.and_eq_true_iff.1 hboth
    simp [render?, render, Operand.render?_of_isWritable hv, Operand.render?_of_isWritable hl,
      Operand.render?_of_isWritable hu]
  | presence value demand =>
    have hv : value.isWritable = true := h
    simp [render?, render, Operand.render?_of_isWritable hv]
  | logical left op right ihl ihr =>
    obtain ⟨hl, hr⟩ := Bool.and_eq_true_iff.1 h
    simp [render?, render, ihl hl, ihr hr]
  | negation inner ih => simp [render?, render, ih h]
  | literal b => cases b <;> rfl
  | truthiness value => exact Operand.render?_of_isWritable h

theorem Rule.Body.render?_of_isWritable {b : Rule.Body} (h : b.isWritable = true) :
    b.render? = some b.render := by
  cases b with
  | consequence c => exact Consequence.render?_of_isWritable h
  | action a =>
    have ha : a.target.isWritable = true := h
    simp [render?, render, Action.render, Operand.render?_of_isWritable ha]

theorem Rule.render?_of_isWritable {r : Rule} (h : r.isWritable = true) :
    r.render? = some r.render := by
  obtain ⟨hc, hb⟩ := Bool.and_eq_true_iff.1 h
  simp [render?, render, Condition.render?_of_isWritable hc, Rule.Body.render?_of_isWritable hb]

/-! ## What is read has a form -/

theorem Operand.Derives.isWritable {ts : List Token} {v : Operand} (h : Operand.Derives ts v) :
    v.isWritable = true := by
  cases h with
  | text s =>
    rcases Operand.ofQuoted_eq s with ⟨t, hread, hs⟩ | hs
    · rw [hs]
      exact Instant.isWritable_of_ofRfc3339? hread
    · rw [hs]
      rfl
  | span _ _ _ hf => exact hf
  | instant hi => exact Instant.isWritable_of_ofText? hi
  | _ => rfl

theorem Operand.ItemsDerive.isWritable {ts : List Token} {vs : List Operand}
    (h : Operand.ItemsDerive ts vs) : vs.all Operand.isWritable = true := by
  induction h with
  | last hv => rw [List.all_cons, hv.isWritable, List.all_nil, Bool.and_self]
  | more hv _ ih => rw [List.all_cons, hv.isWritable, ih, Bool.and_self]

theorem Operand.ListDerives.isWritable {ts : List Token} {vs : List Operand}
    (h : Operand.ListDerives ts vs) : vs.all Operand.isWritable = true := by
  cases h with
  | none => rfl
  | some hvs => exact hvs.isWritable

/-- What holds of tests, and is kept by `NOT`, `AND` and `OR`, holds of every expression. -/
theorem Connectives.Derives.all {α : Type} {k : Connectives α} {Test : List Token → α → Prop}
    {P : α → Prop} (htest : ∀ ts a, Test ts a → P a) (hnegation : ∀ a, P a → P (k.negation a))
    (hlogical : ∀ a op b, P a → P b → P (k.logical a op b)) {level : Connectives.Level}
    {ts : List Token} {a : α} (h : k.Derives Test level ts a) : P a := by
  induction h with
  | test ht => exact htest _ _ ht
  | negation _ ih => exact hnegation _ ih
  | parens _ ih => exact ih
  | conjunct _ ih => exact ih
  | and _ _ iha ihb => exact hlogical _ _ _ iha ihb
  | disjunct _ ih => exact ih
  | or _ _ iha ihb => exact hlogical _ _ _ iha ihb

theorem Condition.TestDerives.isWritable {ts : List Token} {c : Condition}
    (h : Condition.TestDerives ts c) : c.isWritable = true := by
  cases h with
  | comparison hl _ hr => exact Bool.and_eq_true_iff.2 ⟨hl.isWritable, hr.isWritable⟩
  | membership hl hm => exact Bool.and_eq_true_iff.2 ⟨hl.isWritable, hm.isWritable⟩
  | nonMembership hl hm => exact Bool.and_eq_true_iff.2 ⟨hl.isWritable, hm.isWritable⟩
  | textTest _ hl hr => exact Bool.and_eq_true_iff.2 ⟨hl.isWritable, hr.isWritable⟩
  | before hl hr => exact Bool.and_eq_true_iff.2 ⟨hl.isWritable, hr.isWritable⟩
  | after hl hr => exact Bool.and_eq_true_iff.2 ⟨hl.isWritable, hr.isWritable⟩
  | within hl hr => exact Bool.and_eq_true_iff.2 ⟨hl.isWritable, hr.isWritable⟩
  | expires hl hr => exact Bool.and_eq_true_iff.2 ⟨hl.isWritable, hr.isWritable⟩
  | truthiness hl => exact hl.isWritable

theorem Condition.Derives.isWritable {level : Connectives.Level} {ts : List Token} {c : Condition}
    (h : Condition.Derives level ts c) : c.isWritable = true :=
  Connectives.Derives.all (P := fun c => c.isWritable = true)
    (fun _ _ ht => ht.isWritable) (fun _ hc => hc)
    (fun _ _ _ hl hr => Bool.and_eq_true_iff.2 ⟨hl, hr⟩) h

theorem Consequence.TestDerives.isWritable {ts : List Token} {c : Consequence}
    (h : Consequence.TestDerives ts c) : c.isWritable = true := by
  cases h with
  | comparison hl _ hr => exact Bool.and_eq_true_iff.2 ⟨hl.isWritable, hr.isWritable⟩
  | membership hl hm => exact Bool.and_eq_true_iff.2 ⟨hl.isWritable, hm.isWritable⟩
  | nonMembership hl hm => exact Bool.and_eq_true_iff.2 ⟨hl.isWritable, hm.isWritable⟩
  | range hl hlo hhi =>
    exact Bool.and_eq_true_iff.2
      ⟨Bool.and_eq_true_iff.2 ⟨hl.isWritable, hlo.isWritable⟩, hhi.isWritable⟩
  | required hl => exact hl.isWritable
  | recommended hl => exact hl.isWritable
  | literal hl => rfl
  | truthiness hl => exact hl.isWritable

theorem Consequence.Derives.isWritable {level : Connectives.Level} {ts : List Token}
    {c : Consequence} (h : Consequence.Derives level ts c) : c.isWritable = true :=
  Connectives.Derives.all (P := fun c => c.isWritable = true)
    (fun _ _ ht => ht.isWritable) (fun _ hc => hc)
    (fun _ _ _ hl hr => Bool.and_eq_true_iff.2 ⟨hl, hr⟩) h

theorem Rule.Body.Derives.isWritable {ts : List Token} {b : Rule.Body}
    (h : Rule.Body.Derives ts b) : b.isWritable = true := by
  cases h with
  | action ha =>
    cases ha with
    | word _ ht _ => exact ht.isWritable
    | text _ ht => exact ht.isWritable
  | consequence hc _ => exact hc.isWritable

theorem Rule.Derives.isWritable {ts : List Token} {r : Rule} (h : Rule.Derives ts r) :
    r.isWritable = true := by
  cases h with
  | intro hc hb => exact Bool.and_eq_true_iff.2 ⟨hc.isWritable, hb.isWritable⟩

/-- The rule of a text has a form. -/
theorem Rule.isWritable_of_parse {source : String} {r : Rule} (h : Rule.parse source = .ok r) :
    r.isWritable = true := by
  obtain ⟨_, _, _, _, hd⟩ := Rule.derives_of_parse h
  exact hd.isWritable

end Compliance
