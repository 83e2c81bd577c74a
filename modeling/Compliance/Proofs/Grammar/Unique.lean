import Compliance.Proofs.Grammar.Rule
import Compliance.Proofs.Token.Spelling
import Mathlib.Data.List.Basic

/-!
# Compliance.Proofs.Grammar.Unique

Tokens derive one thing at most, and a parsed text derives its rule.

* `Connectives.derives_unique`       — two expressions at the start of one list of tokens.
* `Rule.Derives.endOfInput_notMem`   — no rule contains the end of input.
* `Rule.read_iff_derives`            — tokens are read as the rule that they derive.
* `Rule.derives_of_parse`, `Rule.parse_of_derives` — a text is parsed as the rule that its tokens
  derive.
-/

namespace Compliance

open Tokens

/-! ## One reading -/

/-- Tokens with a position each, which does not matter. -/
def Tokens.placed (ts : List Token) : Tokens := ts.map fun t => ⟨t, Position.start⟩

theorem Tokens.kinds_placed (ts : List Token) : (placed ts).kinds = ts := by
  rw [kinds, placed, List.map_map]
  exact List.map_id ts

theorem Tokens.placed_append (ts us : List Token) : placed (ts ++ us) = placed ts ++ placed us :=
  List.map_append

theorem Connectives.derives_unique {α : Type} {k : Connectives α} {Test : List Token → α → Prop}
    (hk : k.Agrees Test) {us vs xs ys : List Token} {a b : α}
    (ha : k.Derives Test .disjunction us a) (hb : k.Derives Test .disjunction vs b)
    (hx : (placed xs).EndsExpression) (hy : (placed ys).EndsExpression)
    (h : us ++ xs = vs ++ ys) : a = b ∧ xs = ys := by
  have hread := Connectives.read_of_derives hk ha (kinds_placed us) hx
  have hread' := Connectives.read_of_derives hk hb (kinds_placed vs) hy
  rw [← placed_append, h, placed_append, hread'] at hread
  simp only [Except.ok.injEq, Prod.mk.injEq] at hread
  obtain ⟨rfl, hrest⟩ := hread
  refine ⟨rfl, ?_⟩
  rw [← kinds_placed xs, ← kinds_placed ys, hrest]

/-! ## Delimiters -/

/-- The tokens that stand in no condition and in no body. -/
def Token.isDelimiter : Token → Bool
  | .endOfInput => true
  | .word w => w == "THEN"
  | _ => false

def NoDelimiter (ts : List Token) : Prop := ∀ t ∈ ts, t.isDelimiter = false

@[simp] theorem noDelimiter_nil : NoDelimiter [] := nofun

@[simp] theorem noDelimiter_cons (t : Token) (ts : List Token) :
    NoDelimiter (t :: ts) ↔ t.isDelimiter = false ∧ NoDelimiter ts := by
  simp [NoDelimiter]

@[simp] theorem noDelimiter_append (ts us : List Token) :
    NoDelimiter (ts ++ us) ↔ NoDelimiter ts ∧ NoDelimiter us := by
  simp only [NoDelimiter, List.mem_append]
  constructor
  · intro h
    exact ⟨fun t ht => h t (.inl ht), fun t ht => h t (.inr ht)⟩
  · rintro ⟨hts, hus⟩ t (ht | ht)
    · exact hts t ht
    · exact hus t ht

theorem NoDelimiter.notMem {ts : List Token} (h : NoDelimiter ts) {t : Token}
    (ht : t.isDelimiter = true) : t ∉ ts := by
  intro hmem
  rw [h t hmem] at ht
  cases ht

theorem Token.isDelimiter_word {w : String} (h : isReserved w = false) :
    (Token.word w).isDelimiter = false := by
  by_cases hw : w = "THEN"
  · subst hw
    cases h
  · simpa [isDelimiter] using hw

theorem Operand.Derives.noDelimiter {ts : List Token} {v : Operand}
    (h : Operand.Derives ts v) : NoDelimiter ts := by
  cases h with
  | text s => simp [Token.isDelimiter]
  | number hd => simp [Token.isDelimiter]
  | @span n w d amount unit hd hu ha hf =>
    have hw : w ≠ "THEN" := by
      rintro rfl
      cases hu
    simp [Token.isDelimiter, hw]
  | instant hi => simp [Token.isDelimiter]
  | truth hw => simp [Token.isDelimiter_word (not_reserved_of_true hw)]
  | falsity hw => simp [Token.isDelimiter_word (not_reserved_of_false hw)]
  | null hw => simp [Token.isDelimiter_word (not_reserved_of_null hw)]
  | call hw hd =>
    have hword := Token.isDelimiter_word hw.not_reserved
    simp only [noDelimiter_cons, hword]
    simp [Token.isDelimiter]
  | bareCall hw => simp [Token.isDelimiter_word hw.isName.not_reserved]
  | «variable» hw hb => simp [Token.isDelimiter_word hw.not_reserved]

theorem Operand.ItemsDerive.noDelimiter {ts : List Token} {vs : List Operand}
    (h : Operand.ItemsDerive ts vs) : NoDelimiter ts := by
  induction h with
  | last hv => simp [hv.noDelimiter, Token.isDelimiter]
  | more hv _ ih => simp [hv.noDelimiter, ih, Token.isDelimiter]

theorem Operand.ListDerives.noDelimiter {ts : List Token} {vs : List Operand}
    (h : Operand.ListDerives ts vs) : NoDelimiter ts := by
  cases h with
  | none => simp [Token.isDelimiter]
  | some h => simp [h.noDelimiter, Token.isDelimiter]

theorem Comparison.isDelimiter_of_ofToken? {t : Token} {op : Comparison}
    (h : Comparison.ofToken? t = some op) : t.isDelimiter = false := by
  cases t with
  | endOfInput => cases h
  | word w =>
    rw [Comparison.eq_like_of_word h]
    rfl
  | _ => rfl

theorem Condition.TestDerives.noDelimiter {ts : List Token} {c : Condition}
    (h : Condition.TestDerives ts c) : NoDelimiter ts := by
  cases h with
  | comparison hl ht hr =>
    simp [hl.noDelimiter, hr.noDelimiter, Comparison.isDelimiter_of_ofToken? ht]
  | membership hl hm => simp [hl.noDelimiter, hm.noDelimiter, Token.isDelimiter]
  | nonMembership hl hm => simp [hl.noDelimiter, hm.noDelimiter, Token.isDelimiter]
  | textTest op hl hr =>
    have hop : (Token.word op.keyword).isDelimiter = false := by cases op <;> rfl
    simp [hl.noDelimiter, hr.noDelimiter, hop]
  | before hl hr => simp [hl.noDelimiter, hr.noDelimiter, Token.isDelimiter]
  | after hl hr => simp [hl.noDelimiter, hr.noDelimiter, Token.isDelimiter]
  | within hl hr => simp [hl.noDelimiter, hr.noDelimiter, Token.isDelimiter]
  | expires hl hr => simp [hl.noDelimiter, hr.noDelimiter, Token.isDelimiter]
  | truthiness hl => exact hl.noDelimiter

theorem Consequence.TestDerives.noDelimiter {ts : List Token} {c : Consequence}
    (h : Consequence.TestDerives ts c) : NoDelimiter ts := by
  cases h with
  | comparison hl ht hr =>
    simp [hl.noDelimiter, hr.noDelimiter, Comparison.isDelimiter_of_ofToken? ht]
  | membership hl hm => simp [hl.noDelimiter, hm.noDelimiter, Token.isDelimiter]
  | nonMembership hl hm => simp [hl.noDelimiter, hm.noDelimiter, Token.isDelimiter]
  | range hl hlo hhi =>
    simp [hl.noDelimiter, hlo.noDelimiter, hhi.noDelimiter, Token.isDelimiter]
  | required hl => simp [hl.noDelimiter, Token.isDelimiter]
  | recommended hl => simp [hl.noDelimiter, Token.isDelimiter]
  | literal hl => exact hl.noDelimiter
  | truthiness hl => exact hl.noDelimiter

theorem Connectives.Derives.noDelimiter {α : Type} {k : Connectives α}
    {Test : List Token → α → Prop} (htest : ∀ {ts a}, Test ts a → NoDelimiter ts)
    {level : Connectives.Level} {ts : List Token} {a : α} (h : k.Derives Test level ts a) :
    NoDelimiter ts := by
  induction h with
  | test h => exact htest h
  | negation _ ih => simp [ih, Token.isDelimiter]
  | parens _ ih => simp [ih, Token.isDelimiter]
  | conjunct _ ih => exact ih
  | and _ _ iha ihb => simp [iha, ihb, Token.isDelimiter]
  | disjunct _ ih => exact ih
  | or _ _ iha ihb => simp [iha, ihb, Token.isDelimiter]

theorem Condition.Derives.noDelimiter {level : Connectives.Level} {ts : List Token} {c : Condition}
    (h : Condition.Derives level ts c) : NoDelimiter ts :=
  Connectives.Derives.noDelimiter Condition.TestDerives.noDelimiter h

theorem Verb.isDelimiter_of_ofKeyword? {w : String} {verb : Verb}
    (h : Verb.ofKeyword? w = some verb) : (Token.word w).isDelimiter = false := by
  have hw : w ≠ "THEN" := by
    rintro rfl
    cases h
  simpa [Token.isDelimiter] using hw

theorem Rule.Body.Derives.noDelimiter {ts : List Token} {b : Rule.Body}
    (h : Rule.Body.Derives ts b) : NoDelimiter ts := by
  cases h with
  | action ha =>
    cases ha with
    | word hv ht hl =>
      simp [ht.noDelimiter, Verb.isDelimiter_of_ofKeyword? hv, Token.isDelimiter_word hl]
    | text hv ht =>
      have hverb := Verb.isDelimiter_of_ofKeyword? hv
      simp only [noDelimiter_cons, noDelimiter_append, hverb, ht.noDelimiter]
      simp [Token.isDelimiter]
  | consequence hc =>
    exact Connectives.Derives.noDelimiter Consequence.TestDerives.noDelimiter hc

theorem Rule.Derives.endOfInput_notMem {ts : List Token} {r : Rule} (h : Rule.Derives ts r) :
    .endOfInput ∉ ts := by
  obtain ⟨hc, hb⟩ := h
  have hcondition := hc.noDelimiter.notMem (t := .endOfInput) rfl
  have hbody := hb.noDelimiter.notMem (t := .endOfInput) rfl
  simp [hcondition, hbody]

/-! ## Whole texts -/

/-- All tokens in front of the end of input are read as one rule, if they derive one. -/
theorem Rule.read_iff_derives {ts : Tokens} {used : List Token}
    (hts : ts.kinds = used ++ [.endOfInput]) (hused : .endOfInput ∉ used) (r : Rule) :
    Rule.read ts = .ok r ↔ Rule.Derives used r := by
  constructor
  · intro h
    obtain ⟨us, rest, rfl, hend, hd⟩ := Rule.derives_of_read h
    rw [kinds_append] at hts
    cases rest with
    | nil =>
      have hmem : Token.endOfInput ∈ us.kinds := by
        rw [kinds_nil, List.append_nil] at hts
        simp [hts]
      exact absurd hmem hd.endOfInput_notMem
    | cons t rest =>
      rw [kinds_cons, show t.token = .endOfInput from hend] at hts
      obtain ⟨hus, -, -⟩ :=
        (List.append_cons_inj_of_notMem hused List.not_mem_nil).1 hts.symm
      rwa [hus]
  · intro h
    obtain ⟨us, vs, rfl, hus, hvs⟩ := kinds_eq_append hts
    obtain ⟨q, rfl⟩ := kinds_eq_singleton hvs
    exact Rule.read_of_derives h hus rfl

/-- A parsed text derives its rule from all of its tokens. -/
theorem Rule.derives_of_parse {source : String} {r : Rule} (h : Rule.parse source = .ok r) :
    ∃ (used : Tokens) (q : Position), Token.scan source = .ok (used ++ [⟨.endOfInput, q⟩]) ∧
      (∀ t ∈ used.kinds, t.IsLexeme) ∧ Rule.Derives used.kinds r := by
  obtain ⟨ts, hscan, hread⟩ := Except.bind_eq_ok h
  obtain ⟨used, q, rfl, hlexemes⟩ := Token.isLexeme_of_scanFrom hscan
  have hused : Token.endOfInput ∉ used.kinds := fun hmem => hlexemes _ hmem
  have hkinds : Tokens.kinds (used ++ [⟨.endOfInput, q⟩]) = used.kinds ++ [.endOfInput] := by simp
  exact ⟨used, q, hscan, hlexemes, (Rule.read_iff_derives hkinds hused r).1 hread⟩

theorem Rule.parse_of_read {source : String} {ts : Tokens} {r : Rule}
    (hscan : Token.scan source = .ok ts) (h : Rule.read ts = .ok r) :
    Rule.parse source = .ok r := by
  rw [Rule.parse, hscan]
  exact h

theorem Rule.parse_of_derives {source : String} {used : Tokens} {q : Position} {r : Rule}
    (hscan : Token.scan source = .ok (used ++ [⟨.endOfInput, q⟩]))
    (h : Rule.Derives used.kinds r) : Rule.parse source = .ok r :=
  Rule.parse_of_read hscan (Rule.read_of_derives h rfl rfl)

end Compliance
