import Compliance.Proofs.Rule.Canonical

/-!
# Compliance.Proofs.Rule.Marks

The texts and instants of a rule, in the order in which they stand there.

* `Condition.marks`, `Consequence.marks`       — the marks of a tree.
* `Condition.marks_tokens`                     — the canonical tokens carry the same marks.
* `Condition.Derives.marks`                    — so do the tokens that a tree is derived from.
* `Condition.marks_eq_of_beq`                  — equal trees have equal marks.
-/

namespace Compliance

/-! ## Marks of trees and tokens -/

/-- A text counts with its content, an instant without its moment. -/
def Operand.marks : Operand → List (Option String)
  | .text s => [some s]
  | .instant _ => [none]
  | _ => []

def Condition.marks : Condition → List (Option String)
  | .comparison left _ right => left.marks ++ right.marks
  | .membership value values => value.marks ++ values.flatMap Operand.marks
  | .textTest value _ pattern => value.marks ++ pattern.marks
  | .timeTest value _ reference => value.marks ++ reference.marks
  | .logical left _ right => left.marks ++ right.marks
  | .negation inner => inner.marks
  | .truthiness value => value.marks

def Consequence.marks : Consequence → List (Option String)
  | .comparison left _ right => left.marks ++ right.marks
  | .membership value _ values => value.marks ++ values.flatMap Operand.marks
  | .range value lower upper => value.marks ++ (lower.marks ++ upper.marks)
  | .presence value _ => value.marks
  | .logical left _ right => left.marks ++ right.marks
  | .negation inner => inner.marks
  | .literal _ => []
  | .truthiness value => value.marks

/-- The mark of a token of a canonical text, where a quoted text is never an instant. -/
def Token.canonicalMarks : Token → List (Option String)
  | .text s => [some s]
  | .instant _ => [none]
  | _ => []

/-- The mark of any token. -/
def Token.marks : Token → List (Option String)
  | .text s => (Operand.ofQuoted s).marks
  | .instant _ => [none]
  | _ => []

theorem Token.length_marks (t : Token) : t.marks.length = t.canonicalMarks.length := by
  cases t with
  | text s =>
    rcases Operand.ofQuoted_eq s with ⟨i, -, h⟩ | h <;>
      simp [marks, h, Operand.marks, canonicalMarks]
  | _ => rfl

theorem Token.length_flatMap_marks (ts : List Token) :
    (ts.flatMap marks).length = (ts.flatMap canonicalMarks).length := by
  simp only [List.length_flatMap, length_marks]

/-! ## Canonical tokens -/

theorem Operand.marks_tokens (v : Operand) : v.tokens.flatMap Token.canonicalMarks = v.marks := by
  cases v with
  | bool b => cases b <;> rfl
  | _ => rfl

theorem Operand.marks_itemTokens (vs : List Operand) :
    (itemTokens vs).flatMap Token.canonicalMarks = vs.flatMap Operand.marks := by
  induction vs with
  | nil => rfl
  | cons v vs ih =>
    cases vs with
    | nil => simp [itemTokens, marks_tokens, Token.canonicalMarks]
    | cons w vs => simp [itemTokens, marks_tokens, Token.canonicalMarks, ih]

theorem Comparison.canonicalMarks_token (op : Comparison) : op.token.canonicalMarks = [] := by
  cases op <;> rfl

theorem TimeTest.canonicalMarks_tokens (op : TimeTest) :
    op.tokens.flatMap Token.canonicalMarks = [] := by
  cases op <;> rfl

theorem Condition.marks_tokens (c : Condition) :
    c.tokens.flatMap Token.canonicalMarks = c.marks := by
  induction c with
  | comparison left op right =>
    simp [tokens, marks, Operand.marks_tokens, Comparison.canonicalMarks_token]
  | membership value values =>
    simp [tokens, marks, Operand.marks_tokens, Operand.listTokens, Operand.marks_itemTokens,
      Token.canonicalMarks]
  | textTest value op pattern =>
    simp [tokens, marks, Operand.marks_tokens, Token.canonicalMarks]
  | timeTest value op reference =>
    simp [tokens, marks, Operand.marks_tokens, TimeTest.canonicalMarks_tokens]
  | logical left op right ihl ihr =>
    simp [tokens, marks, Connective.tokens, Token.canonicalMarks, ihl, ihr]
  | negation inner ih => simpa [tokens, marks, Token.canonicalMarks] using ih
  | truthiness value => exact Operand.marks_tokens value

theorem Consequence.marks_tokens (c : Consequence) :
    c.tokens.flatMap Token.canonicalMarks = c.marks := by
  induction c with
  | comparison left op right =>
    simp [tokens, marks, Operand.marks_tokens, Comparison.canonicalMarks_token]
  | membership value isNegated values =>
    cases isNegated <;>
      simp [tokens, marks, Operand.marks_tokens, Operand.listTokens, Operand.marks_itemTokens,
        Token.canonicalMarks]
  | range value lower upper =>
    simp [tokens, marks, Operand.marks_tokens, Token.canonicalMarks]
  | presence value demand =>
    simp [tokens, marks, Operand.marks_tokens, Demand.token, Token.canonicalMarks]
  | logical left op right ihl ihr =>
    simp [tokens, marks, Connective.tokens, Token.canonicalMarks, ihl, ihr]
  | negation inner ih => simpa [tokens, marks, Token.canonicalMarks] using ih
  | literal b => cases b <;> rfl
  | truthiness value => exact Operand.marks_tokens value

/-! ## Derived tokens -/

theorem Operand.Derives.marks {ts : List Token} {v : Operand} (h : Operand.Derives ts v) :
    ts.flatMap Token.marks = v.marks := by
  cases h with
  | text s => simp [Token.marks]
  | _ => rfl

theorem Operand.ItemsDerive.marks {ts : List Token} {vs : List Operand}
    (h : Operand.ItemsDerive ts vs) : ts.flatMap Token.marks = vs.flatMap Operand.marks := by
  induction h with
  | last hv => simp [hv.marks, Token.marks]
  | more hv _ ih => simp [hv.marks, ih, Token.marks]

theorem Operand.ListDerives.marks {ts : List Token} {vs : List Operand}
    (h : Operand.ListDerives ts vs) : ts.flatMap Token.marks = vs.flatMap Operand.marks := by
  cases h with
  | none => rfl
  | some h => simp [h.marks, Token.marks]

theorem Comparison.marks_of_ofToken? {t : Token} {op : Comparison}
    (h : Comparison.ofToken? t = some op) : t.marks = [] := by
  cases t with
  | text s => cases h
  | instant s => cases h
  | _ => rfl

theorem Condition.TestDerives.marks {ts : List Token} {c : Condition}
    (h : Condition.TestDerives ts c) : ts.flatMap Token.marks = c.marks := by
  cases h with
  | comparison hl ht hr =>
    simp [Condition.marks, hl.marks, hr.marks, Comparison.marks_of_ofToken? ht]
  | membership hl hm => simp [Condition.marks, hl.marks, hm.marks, Token.marks]
  | nonMembership hl hm => simp [Condition.marks, hl.marks, hm.marks, Token.marks]
  | textTest op hl hr => simp [Condition.marks, hl.marks, hr.marks, Token.marks]
  | before hl hr => simp [Condition.marks, hl.marks, hr.marks, Token.marks]
  | after hl hr => simp [Condition.marks, hl.marks, hr.marks, Token.marks]
  | within hl hr => simp [Condition.marks, hl.marks, hr.marks, Token.marks]
  | expires hl hr => simp [Condition.marks, hl.marks, hr.marks, Token.marks]
  | truthiness hl => exact hl.marks

theorem Consequence.TestDerives.marks {ts : List Token} {c : Consequence}
    (h : Consequence.TestDerives ts c) : ts.flatMap Token.marks = c.marks := by
  cases h with
  | comparison hl ht hr =>
    simp [Consequence.marks, hl.marks, hr.marks, Comparison.marks_of_ofToken? ht]
  | membership hl hm => simp [Consequence.marks, hl.marks, hm.marks, Token.marks]
  | nonMembership hl hm => simp [Consequence.marks, hl.marks, hm.marks, Token.marks]
  | range hl hlo hhi => simp [Consequence.marks, hl.marks, hlo.marks, hhi.marks, Token.marks]
  | required hl => simp [Consequence.marks, hl.marks, Token.marks]
  | recommended hl => simp [Consequence.marks, hl.marks, Token.marks]
  | literal hl => exact hl.marks
  | truthiness hl => exact hl.marks

/-- Marks carry over from tests to expressions, where connectives only join them. -/
theorem Connectives.Derives.marks {α : Type} {k : Connectives α} {Test : List Token → α → Prop}
    (marks : α → List (Option String)) (hnegation : ∀ a, marks (k.negation a) = marks a)
    (hlogical : ∀ a op b, marks (k.logical a op b) = marks a ++ marks b)
    (htest : ∀ ts a, Test ts a → ts.flatMap Token.marks = marks a)
    {level : Connectives.Level} {ts : List Token} {a : α} (h : k.Derives Test level ts a) :
    ts.flatMap Token.marks = marks a := by
  induction h with
  | test h => exact htest _ _ h
  | negation _ ih => simpa [hnegation, Token.marks] using ih
  | parens _ ih => simpa [Token.marks] using ih
  | conjunct _ ih => exact ih
  | and _ _ iha ihb => simp [hlogical, iha, ihb, Token.marks]
  | disjunct _ ih => exact ih
  | or _ _ iha ihb => simp [hlogical, iha, ihb, Token.marks]

theorem Condition.Derives.marks {level : Connectives.Level} {ts : List Token} {c : Condition}
    (h : Condition.Derives level ts c) : ts.flatMap Token.marks = c.marks :=
  Connectives.Derives.marks Condition.marks (fun _ => rfl) (fun _ _ _ => rfl)
    (fun _ _ => Condition.TestDerives.marks) h

theorem Consequence.Derives.marks {level : Connectives.Level} {ts : List Token} {c : Consequence}
    (h : Consequence.Derives level ts c) : ts.flatMap Token.marks = c.marks :=
  Connectives.Derives.marks Consequence.marks (fun _ => rfl) (fun _ _ _ => rfl)
    (fun _ _ => Consequence.TestDerives.marks) h

/-! ## Equal trees -/

theorem Operand.marks_eq_of_beq {v w : Operand} (h : (v == w) = true) : v.marks = w.marks := by
  cases v with
  | text s =>
    cases w with
    | text t => rw [show s = t from beq_iff_eq.1 h]
    | _ => cases h
  | _ => cases w <;> first | rfl | cases h

theorem Operand.flatMap_marks_eq_of_beq {vs ws : List Operand} (h : (vs == ws) = true) :
    vs.flatMap Operand.marks = ws.flatMap Operand.marks := by
  induction vs generalizing ws with
  | nil =>
    cases ws with
    | nil => rfl
    | cons w ws => cases h
  | cons v vs ih =>
    cases ws with
    | nil => cases h
    | cons w ws =>
      simp only [List.cons_beq_cons, Bool.and_eq_true] at h
      rw [List.flatMap_cons, List.flatMap_cons, marks_eq_of_beq h.1, ih h.2]

theorem Condition.marks_eq_of_beq {c d : Condition} (h : (c == d) = true) :
    c.marks = d.marks := by
  have both {a b : Bool} (h : (a && b) = true) : a = true ∧ b = true := Bool.and_eq_true_iff.1 h
  induction c generalizing d with
  | comparison left op right =>
    cases d with
    | comparison left' op' right' =>
      obtain ⟨hl, h⟩ := both h
      rw [marks, marks, Operand.marks_eq_of_beq hl, Operand.marks_eq_of_beq (both h).2]
    | _ => cases h
  | membership value values =>
    cases d with
    | membership value' values' =>
      obtain ⟨hv, hvs⟩ := both h
      rw [marks, marks, Operand.marks_eq_of_beq hv, Operand.flatMap_marks_eq_of_beq hvs]
    | _ => cases h
  | textTest value op pattern =>
    cases d with
    | textTest value' op' pattern' =>
      obtain ⟨hv, h⟩ := both h
      rw [marks, marks, Operand.marks_eq_of_beq hv, Operand.marks_eq_of_beq (both h).2]
    | _ => cases h
  | timeTest value op reference =>
    cases d with
    | timeTest value' op' reference' =>
      obtain ⟨hv, h⟩ := both h
      rw [marks, marks, Operand.marks_eq_of_beq hv, Operand.marks_eq_of_beq (both h).2]
    | _ => cases h
  | logical left op right ihl ihr =>
    cases d with
    | logical left' op' right' =>
      obtain ⟨hl, h⟩ := both h
      rw [marks, marks, ihl hl, ihr (both h).2]
    | _ => cases h
  | negation inner ih =>
    cases d with
    | negation inner' => exact ih (d := inner') h
    | _ => cases h
  | truthiness value =>
    cases d with
    | truthiness value' => exact Operand.marks_eq_of_beq h
    | _ => cases h

theorem Consequence.marks_eq_of_beq {c d : Consequence} (h : (c == d) = true) :
    c.marks = d.marks := by
  have both {a b : Bool} (h : (a && b) = true) : a = true ∧ b = true := Bool.and_eq_true_iff.1 h
  induction c generalizing d with
  | comparison left op right =>
    cases d with
    | comparison left' op' right' =>
      obtain ⟨hl, h⟩ := both h
      rw [marks, marks, Operand.marks_eq_of_beq hl, Operand.marks_eq_of_beq (both h).2]
    | _ => cases h
  | membership value isNegated values =>
    cases d with
    | membership value' isNegated' values' =>
      obtain ⟨hv, h⟩ := both h
      rw [marks, marks, Operand.marks_eq_of_beq hv, Operand.flatMap_marks_eq_of_beq (both h).2]
    | _ => cases h
  | range value lower upper =>
    cases d with
    | range value' lower' upper' =>
      obtain ⟨hv, h⟩ := both h
      obtain ⟨hlo, hhi⟩ := both h
      rw [marks, marks, Operand.marks_eq_of_beq hv, Operand.marks_eq_of_beq hlo,
        Operand.marks_eq_of_beq hhi]
    | _ => cases h
  | presence value demand =>
    cases d with
    | presence value' demand' => exact Operand.marks_eq_of_beq (both h).1
    | _ => cases h
  | logical left op right ihl ihr =>
    cases d with
    | logical left' op' right' =>
      obtain ⟨hl, h⟩ := both h
      rw [marks, marks, ihl hl, ihr (both h).2]
    | _ => cases h
  | negation inner ih =>
    cases d with
    | negation inner' => exact ih (d := inner') h
    | _ => cases h
  | literal b =>
    cases d with
    | literal b' => rfl
    | _ => cases h
  | truthiness value =>
    cases d with
    | truthiness value' => exact Operand.marks_eq_of_beq h
    | _ => cases h

theorem Action.beq_iff {a b : Action} :
    (a == b) = true ↔ a.verb = b.verb ∧ (a.target == b.target) = true ∧ a.label = b.label := by
  have hfields : (a == b) =
      (a.verb == b.verb && (a.target == b.target && a.label == b.label)) := rfl
  simp [hfields]

end Compliance
