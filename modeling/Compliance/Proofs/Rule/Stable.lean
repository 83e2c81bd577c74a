import Compliance.Proofs.Rule.RoundTrip
import Compliance.Proofs.Rule.Writable

/-!
# Compliance.Proofs.Rule.Stable

The text of a tree carries its structure, wherever the tree comes from.

* `Operand.IsStable`            — the text of an operand is read as that operand.
* `Operand.IsStable.canonical`  — then the operand is derived from its canonical tokens.
* `Condition.IsStable`, `Consequence.IsStable` — trees over such operands.
* `Rule.trees_read_back`        — they are read from their texts, as they are.
-/

namespace Compliance

open Tokens

/-! ## Stable operands -/

/-- The tokens that can stand behind an operand in a canonical text. -/
inductive Token.FollowsOperand : Token → Prop where
  | comparison (op : Comparison) : FollowsOperand op.token
  | textTest (op : TextTest) : FollowsOperand (.word op.keyword)
  | timeTest (op : TimeTest) : FollowsOperand (.word op.keyword)
  | connective (op : Connective) : FollowsOperand (.word op.keyword)
  | membership : FollowsOperand (.word "IN")
  | nonMembership : FollowsOperand (.word "NOT")
  | range : FollowsOperand (.word "BETWEEN")
  | delimiter : FollowsOperand (.word "THEN")
  | comma : FollowsOperand .comma
  | rightBracket : FollowsOperand .rightBracket
  | rightParen : FollowsOperand .rightParen
  | endOfInput : FollowsOperand .endOfInput

/-- The operand has a text, the text has tokens, and in front of whatever can follow these are read
as an equal operand. -/
def Operand.IsStable (v : Operand) : Prop :=
  v.isWritable = true ∧ ∃ (used : Tokens) (q : Position),
    Token.scan v.render = .ok (used ++ [⟨.endOfInput, q⟩]) ∧
      ∀ rest : Tokens, rest.next.FollowsOperand →
        ∃ w, Operand.read (used ++ rest) = .ok (w, rest) ∧ (w == v) = true

/-- What is scanned from the text of a stable operand derives an equal one. -/
theorem Operand.IsStable.derives {v : Operand} (h : v.IsStable) :
    ∃ (w : Operand) (used : Tokens) (q : Position),
      Token.scan v.render = .ok (used ++ [⟨.endOfInput, q⟩]) ∧
        Operand.Derives used.kinds w ∧ (w == v) = true := by
  obtain ⟨-, used, q, hscan, hread⟩ := h
  obtain ⟨w, hw, heq⟩ := hread [⟨.endOfInput, q⟩] .endOfInput
  obtain ⟨us, hus, hd⟩ := Operand.derives_of_read hw
  rw [List.append_cancel_right hus] at hscan
  exact ⟨w, us, q, hscan, hd, heq⟩

/-- Equal operands are the same, numbers and instants apart. -/
theorem Operand.eq_or_literal_of_beq {v w : Operand} (h : (w == v) = true) :
    w = v ∨ (∃ d, v = .number d) ∨ ∃ t, v = .instant t := by
  cases v with
  | number d => exact .inr (.inl ⟨d, rfl⟩)
  | instant t => exact .inr (.inr ⟨t, rfl⟩)
  | span amount unit =>
    cases w with
    | span amount' unit' =>
      have hparts : (decide (amount' = amount) && decide (unit' = unit)) = true := h
      simp only [Bool.and_eq_true, decide_eq_true_eq] at hparts
      exact .inl (by rw [hparts.1, hparts.2])
    | _ => cases h
  | null =>
    cases w with
    | null => exact .inl rfl
    | _ => cases h
  | «variable» path =>
    cases w with
    | «variable» path' => exact .inl (congrArg _ (eq_of_beq h))
    | _ => cases h
  | text s =>
    cases w with
    | text s' => exact .inl (congrArg _ (eq_of_beq h))
    | _ => cases h
  | bool b =>
    cases w with
    | bool b' => exact .inl (congrArg _ (eq_of_beq h))
    | _ => cases h
  | call name =>
    cases w with
    | call name' => exact .inl (congrArg _ (eq_of_beq h))
    | _ => cases h

theorem Operand.isCanonical_number (d : Decimal) : (Operand.number d).IsCanonical where
  derives := .number (Decimal.ofPlain?_text d)
  lexemes := .cons (Token.isLexeme_decimal d) .nil

/-- A stable operand is derived from its canonical tokens. -/
theorem Operand.IsStable.canonical {v : Operand} (h : v.IsStable) : v.IsCanonical := by
  obtain ⟨w, used, q, hscan, hd, heq⟩ := h.derives
  rcases Operand.eq_or_literal_of_beq heq with rfl | ⟨d, rfl⟩ | ⟨t, rfl⟩
  · obtain ⟨us, q', hus, hlexemes⟩ := Token.isLexeme_of_scanFrom hscan
    rw [(List.append_inj' hus rfl).1] at hd
    exact hd.canonical hlexemes
  · exact isCanonical_number d
  · exact isCanonical_instant h.1

/-- No stable text hides a quote: it would be scanned as another one. -/
theorem Operand.IsStable.not_hidesQuote {s : String} (h : (Operand.text s).IsStable) :
    ¬ Token.HidesQuote s.toList := by
  intro hs
  obtain ⟨w, used, q, hscan, hd, heq⟩ := h.derives
  have hspells := Operand.written h.canonical.lexemes [] breaks_nil
  rw [List.append_nil] at hspells
  obtain ⟨r, q', more, hplaced, hne⟩ := hspells.scan_text hs hscan
  cases used with
  | nil => cases hplaced
  | cons t used =>
    obtain ⟨rfl, -⟩ := List.cons.inj hplaced
    -- one text token derives one text, which is not `s`
    have hmarks := hd.marks
    rw [Operand.marks_eq_of_beq heq] at hmarks
    simp only [kinds_cons, List.flatMap_cons, Token.marks] at hmarks
    rcases Operand.ofQuoted_eq r with ⟨i, -, hr⟩ | hr
    · simp [hr, Operand.marks] at hmarks
    · simp [hr, Operand.marks, hne] at hmarks

/-- No text among the marks hides a quote. -/
def NoneHidesQuote (marks : List (Option String)) : Prop :=
  ∀ s, some s ∈ marks → ¬ Token.HidesQuote s.toList

theorem Operand.IsStable.noneHidesQuote {v : Operand} (h : v.IsStable) :
    NoneHidesQuote v.marks := by
  intro s hs
  cases v with
  | text r =>
    obtain rfl : s = r := by simpa [Operand.marks] using hs
    exact h.not_hidesQuote
  | instant t => simp [Operand.marks] at hs
  | _ => cases hs

/-- A text that spells tokens is scanned as these, if its texts are readable. -/
theorem Written.scan {ts : List Token} {text : String} (h : Written ts text.toList)
    (hclean : NoneHidesQuote (ts.flatMap Token.canonicalMarks)) :
    ∃ (used : Tokens) (q : Position), used.kinds = ts ∧
      Token.scan text = .ok (used ++ [⟨.endOfInput, q⟩]) := by
  have hspells := h [] breaks_nil
  rw [List.append_nil] at hspells
  exact hspells.scan_all fun s hs => hclean s (List.mem_flatMap.2 ⟨_, hs, List.mem_cons_self⟩)

/-- Nothing that follows an operand belongs to it. -/
theorem Token.FollowsOperand.endsOperand {rest : Tokens} (h : rest.next.FollowsOperand) :
    rest.EndsOperand := by
  generalize ht : rest.next = t at h
  have hends : t ≠ .leftParen ∧ ∀ w, t = .word w → SpanUnit.ofKeyword? w = none := by
    cases h with
    | comparison op => cases op <;> exact ⟨by decide, by rintro w ⟨⟩ <;> rfl⟩
    | textTest op => cases op <;> exact ⟨by decide, by rintro w ⟨⟩; rfl⟩
    | timeTest op => cases op <;> exact ⟨by decide, by rintro w ⟨⟩; rfl⟩
    | connective op => cases op <;> exact ⟨by decide, by rintro w ⟨⟩; rfl⟩
    | _ => exact ⟨by decide, by rintro w ⟨⟩ <;> rfl⟩
  exact endsOperand_of_next ht hends.1 hends.2

/-- The stable operands are those that are derived from their canonical tokens, but for texts that
hide a quote. -/
theorem Operand.isStable_iff {v : Operand} :
    v.IsStable ↔ v.IsCanonical ∧ NoneHidesQuote v.marks := by
  refine ⟨fun h => ⟨h.canonical, h.noneHidesQuote⟩, fun ⟨hv, hclean⟩ => ⟨hv.derives.isWritable, ?_⟩⟩
  obtain ⟨used, q, hused, hscan⟩ := (Operand.written hv.lexemes).scan
    (by rw [Operand.marks_tokens]; exact hclean)
  refine ⟨used, q, hscan, fun rest hrest => ⟨v, ?_, v.beq_self⟩⟩
  exact Operand.read_of_derives hv.derives hused hrest.endsOperand

/-! ## Trees over stable operands -/

/-- The operands of a condition are stable, and `WITHIN` and `EXPIRES AFTER` have spans. -/
def Condition.IsStable : Condition → Prop
  | .comparison left _ right => left.IsStable ∧ right.IsStable
  | .membership value values => value.IsStable ∧ ∀ v ∈ values, v.IsStable
  | .textTest value _ pattern => value.IsStable ∧ pattern.IsStable
  | .timeTest value op reference => value.IsStable ∧ reference.IsStable ∧ op.Accepts reference
  | .logical left _ right => left.IsStable ∧ right.IsStable
  | .negation inner => inner.IsStable
  | .truthiness value => value.IsStable

/-- The operand of a demand that has nothing but an operand. -/
def Operand.IsVariable (v : Operand) : Prop := ∃ path, v = .variable path

/-- The operands of a consequence are stable, and those that stand alone are variables. -/
def Consequence.IsStable : Consequence → Prop
  | .comparison left _ right => left.IsStable ∧ right.IsStable
  | .membership value _ values => value.IsStable ∧ ∀ v ∈ values, v.IsStable
  | .range value lower upper => value.IsStable ∧ lower.IsStable ∧ upper.IsStable
  | .presence value _ => value.IsStable ∧ value.IsVariable
  | .logical left _ right => left.IsStable ∧ right.IsStable
  | .negation inner => inner.IsStable
  | .literal _ => True
  | .truthiness value => value.IsStable ∧ value.IsVariable

theorem Condition.IsStable.canonical {c : Condition} (h : c.IsStable) : c.IsCanonical := by
  induction c with
  | comparison left op right => exact isCanonical_comparison op h.1.canonical h.2.canonical
  | membership value values =>
    exact isCanonical_membership h.1.canonical
      (Operand.isCanonical_list fun v hv => (h.2 v hv).canonical)
  | textTest value op pattern => exact isCanonical_textTest op h.1.canonical h.2.canonical
  | timeTest value op reference =>
    obtain ⟨hvalue, hreference, hop⟩ := h
    exact isCanonical_timeTest hvalue.canonical hreference.canonical hop
  | logical left op right ihl ihr =>
    exact Connectives.IsCanonical.logical (fun _ _ _ => rfl) (ihl h.1) (ihr h.2) op
  | negation inner ih => exact isCanonical_negation (ih h)
  | truthiness value => exact isCanonical_truthiness (Operand.IsStable.canonical h)

theorem Operand.isCanonical_bool (b : Bool) : (Operand.bool b).IsCanonical := by
  cases b with
  | true => exact ⟨.truth (by decide), .cons ⟨rfl, rfl⟩ .nil⟩
  | false => exact ⟨.falsity (by decide), .cons ⟨rfl, rfl⟩ .nil⟩

theorem Consequence.IsStable.canonical {c : Consequence} (h : c.IsStable) : c.IsCanonical := by
  induction c with
  | comparison left op right => exact isCanonical_comparison op h.1.canonical h.2.canonical
  | membership value isNegated values =>
    exact isCanonical_membership isNegated h.1.canonical
      (Operand.isCanonical_list fun v hv => (h.2 v hv).canonical)
  | range value lower upper =>
    obtain ⟨hvalue, hlower, hupper⟩ := h
    exact isCanonical_range hvalue.canonical hlower.canonical hupper.canonical
  | presence value demand =>
    obtain ⟨hvalue, path, rfl⟩ := h
    exact isCanonical_presence demand hvalue.canonical
  | logical left op right ihl ihr =>
    exact Connectives.IsCanonical.logical (fun _ _ _ => rfl) (ihl h.1) (ihr h.2) op
  | negation inner ih => exact Connectives.IsCanonical.negation (fun _ => rfl) (ih h)
  | literal b => exact isCanonical_literal (Operand.isCanonical_bool b)
  | truthiness value =>
    obtain ⟨hvalue, path, rfl⟩ := h
    exact isCanonical_truthiness hvalue.canonical

/-! ## Texts of trees -/

theorem NoneHidesQuote.append {ms ns : List (Option String)} (hm : NoneHidesQuote ms)
    (hn : NoneHidesQuote ns) : NoneHidesQuote (ms ++ ns) := by
  intro s hs
  rcases List.mem_append.1 hs with hs | hs
  · exact hm s hs
  · exact hn s hs

theorem Operand.noneHidesQuote_list {vs : List Operand} (h : ∀ v ∈ vs, v.IsStable) :
    NoneHidesQuote (vs.flatMap Operand.marks) := by
  intro s hs
  obtain ⟨v, hv, hmem⟩ := List.mem_flatMap.1 hs
  exact (h v hv).noneHidesQuote s hmem

theorem Condition.IsStable.noneHidesQuote {c : Condition} (h : c.IsStable) :
    NoneHidesQuote c.marks := by
  induction c with
  | comparison left op right => exact h.1.noneHidesQuote.append h.2.noneHidesQuote
  | membership value values => exact h.1.noneHidesQuote.append (Operand.noneHidesQuote_list h.2)
  | textTest value op pattern => exact h.1.noneHidesQuote.append h.2.noneHidesQuote
  | timeTest value op reference => exact h.1.noneHidesQuote.append h.2.1.noneHidesQuote
  | logical left op right ihl ihr => exact (ihl h.1).append (ihr h.2)
  | negation inner ih => exact ih h
  | truthiness value => exact Operand.IsStable.noneHidesQuote h

theorem Consequence.IsStable.noneHidesQuote {c : Consequence} (h : c.IsStable) :
    NoneHidesQuote c.marks := by
  induction c with
  | comparison left op right => exact h.1.noneHidesQuote.append h.2.noneHidesQuote
  | membership value isNegated values =>
    exact h.1.noneHidesQuote.append (Operand.noneHidesQuote_list h.2)
  | range value lower upper =>
    exact h.1.noneHidesQuote.append (h.2.1.noneHidesQuote.append h.2.2.noneHidesQuote)
  | presence value demand => exact h.1.noneHidesQuote
  | logical left op right ihl ihr => exact (ihl h.1).append (ihr h.2)
  | negation inner ih => exact ih h
  | literal b => exact fun s hs => absurd hs List.not_mem_nil
  | truthiness value => exact h.1.noneHidesQuote

/-! ## Trees are read back -/

/-- A condition over stable operands is read from the tokens of its text, up to the `THEN` behind
it; and so is a consequence, up to the end of input. -/
theorem Rule.trees_read_back :
    (∀ c : Condition, c.IsStable → ∃ (used : Tokens) (q : Position),
      Token.scan c.render = .ok (used ++ [⟨.endOfInput, q⟩]) ∧
        ∀ rest : Tokens, rest.next = .word "THEN" →
          Condition.read (used ++ rest) = .ok (c, rest)) ∧
    ∀ k : Consequence, k.IsStable → ∃ (used : Tokens) (q : Position),
      Token.scan k.render = .ok (used ++ [⟨.endOfInput, q⟩]) ∧
        ∀ rest : Tokens, rest.next = .endOfInput →
          Consequence.read (used ++ rest) = .ok (k, rest) := by
  constructor
  · intro c hc
    have hcanonical := hc.canonical
    obtain ⟨used, q, hused, hscan⟩ := (Condition.written hcanonical.lexemes).scan
      (by rw [Condition.marks_tokens]; exact hc.noneHidesQuote)
    refine ⟨used, q, hscan, fun rest hrest => ?_⟩
    exact Condition.read_of_derives (.disjunct (.conjunct hcanonical.derives)) hused
      (.inr (.inr hrest))
  · intro k hk
    have hcanonical := hk.canonical
    obtain ⟨used, q, hused, hscan⟩ := (Consequence.written hcanonical.lexemes).scan
      (by rw [Consequence.marks_tokens]; exact hk.noneHidesQuote)
    refine ⟨used, q, hscan, fun rest hrest => ?_⟩
    exact Consequence.read_of_derives (.disjunct (.conjunct hcanonical.derives)) hused
      (.inl hrest)

/-- `NOT (x IN ['it''s', 1] AND x EXPIRES AFTER 5 DAYS)`, and
`(x BETWEEN 1 AND x OR NOT REQUIRE x)`. -/
theorem Rule.trees_read_back_nested :
    (Condition.negation (.logical
      (.membership (.variable "x") [.text "it's", .number Decimal.one]) .and
      (.timeTest (.variable "x") .expires (.span 5 .days)))).IsStable ∧
    (Consequence.logical (.range (.variable "x") (.number Decimal.one) (.variable "x")) .or
      (.negation (.presence (.variable "x") .required))).IsStable ∧
    (∃ (used : Tokens) (q : Position),
      Token.scan "NOT (x IN ['it''s', 1] AND x EXPIRES AFTER 5 DAYS)" =
          .ok (used ++ [⟨.endOfInput, q⟩]) ∧
        ∀ rest : Tokens, rest.next = .word "THEN" →
          Condition.read (used ++ rest) = .ok (.negation (.logical
            (.membership (.variable "x") [.text "it's", .number Decimal.one]) .and
            (.timeTest (.variable "x") .expires (.span 5 .days))), rest)) ∧
    ∃ (used : Tokens) (q : Position),
      Token.scan "(x BETWEEN 1 AND x OR NOT REQUIRE x)" = .ok (used ++ [⟨.endOfInput, q⟩]) ∧
        ∀ rest : Tokens, rest.next = .endOfInput →
          Consequence.read (used ++ rest) = .ok (.logical
            (.range (.variable "x") (.number Decimal.one) (.variable "x")) .or
            (.negation (.presence (.variable "x") .required)), rest) := by
  have hx : (Operand.variable "x").IsStable := Operand.isStable_iff.2
    ⟨⟨.variable ⟨by decide, by decide, by decide, by decide⟩ (by unfold IsBareCall; decide),
      .cons ⟨rfl, rfl⟩ .nil⟩, fun s hs => absurd hs List.not_mem_nil⟩
  have hone : (Operand.number Decimal.one).IsStable := Operand.isStable_iff.2
    ⟨Operand.isCanonical_number _, fun s hs => absurd hs List.not_mem_nil⟩
  have htext : (Operand.text "it's").IsStable := by
    refine Operand.isStable_iff.2 ⟨⟨.text "it's", .cons (show "it's".toList.getLast? ≠ some '\\' by decide) .nil⟩, ?_⟩
    intro s hs
    obtain rfl : s = "it's" := by simpa [Operand.marks] using hs
    -- a text without a backslash hides nothing
    exact fun h => absurd (h.subset List.mem_cons_self) (by decide)
  have hspan : (Operand.span 5 .days).IsStable := Operand.isStable_iff.2
    ⟨⟨.span (d := ⟨5, 0, by decide, by decide⟩) rfl rfl rfl rfl,
      .cons (Token.isLexeme_intDigits 5) (.cons (Token.isLexeme_unit .days) .nil)⟩,
      fun s hs => absurd hs List.not_mem_nil⟩
  have hc : (Condition.negation (.logical
      (.membership (.variable "x") [.text "it's", .number Decimal.one]) .and
      (.timeTest (.variable "x") .expires (.span 5 .days)))).IsStable :=
    ⟨⟨hx, List.forall_mem_cons.2 ⟨htext, List.forall_mem_singleton.2 hone⟩⟩, hx, hspan,
      fun _ => ⟨5, .days, rfl⟩⟩
  have hk : (Consequence.logical (.range (.variable "x") (.number Decimal.one) (.variable "x")) .or
      (.negation (.presence (.variable "x") .required))).IsStable :=
    ⟨⟨hx, hone, hx⟩, hx, "x", rfl⟩
  exact ⟨hc, hk, Rule.trees_read_back.1 _ hc, Rule.trees_read_back.2 _ hk⟩

end Compliance
