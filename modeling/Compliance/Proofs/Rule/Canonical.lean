import Compliance.Proofs.Decimal.Text
import Compliance.Proofs.Grammar.Unique
import Compliance.Proofs.Instant.Rfc3339
import Compliance.Proofs.Rule.Tokens

/-!
# Compliance.Proofs.Rule.Canonical

The tokens of the canonical text derive what they are the text of.

* `Operand.Derives.canonical`, `Condition.Derives.canonical`, `Consequence.Derives.canonical` —
  whatever is derived from lexemes is derived from its own canonical tokens, and these are lexemes.
* `Rule.isCanonical_of_parse`  — so are the parts of every parsed rule.
* `Rule.spells_head`, `Action.spells_head` — the beginnings of the texts of rules and actions.
-/

namespace Compliance

/-! ## Literals -/

theorem Token.isLexeme_decimal (d : Decimal) : (Token.number d.text).IsLexeme := by
  have hm : IsMagnitude (d.wholeDigits ++ d.placesText) := by
    refine ⟨d.wholeDigits, d.placesText, rfl, d.wholeDigits_ne_nil,
      fun _ => Decimal.isDigit_of_mem_wholeDigits, ?_⟩
    rw [Decimal.placesText]
    split
    · exact .inl rfl
    · rename_i hscale
      refine .inr ⟨_, rfl, ?_, fun _ => Decimal.isDigit_of_mem_placeDigits⟩
      rw [← List.length_pos_iff, Decimal.length_placeDigits]
      simp only [beq_iff_eq] at hscale
      omega
  rw [IsLexeme, Decimal.text_eq]
  by_cases hneg : d.mantissa < 0
  · rw [if_pos hneg]
    exact .inr ⟨_, rfl, hm⟩
  · rw [if_neg hneg]
    exact .inl hm

theorem Token.isLexeme_intDigits (z : Int) :
    (Token.number (String.ofList (Text.intDigits z))).IsLexeme := by
  have hm (n : Nat) : IsMagnitude (Text.digits n) :=
    ⟨_, [], (List.append_nil _).symm, Text.digits_ne_nil n,
      fun _ => Text.isDigit_of_mem_digits, .inl rfl⟩
  rw [IsLexeme, String.toList_ofList]
  cases z with
  | ofNat n => exact .inl (hm n)
  | negSucc n => exact .inr ⟨_, rfl, hm (n + 1)⟩

theorem Token.all_padded (width n : Nat) : (Text.padded width n).all isInstantChar = true :=
  List.all_eq_true.2 fun _ h => isInstantChar_of_isDigit (Text.isDigit_of_mem_padded h)

theorem Token.all_fractionText (n : Nat) :
    (Instant.fractionText n).all isInstantChar = true := by
  rw [Instant.fractionText]
  split
  · rfl
  · rw [List.all_cons, List.all_eq_true.2 fun c hc =>
      isInstantChar_of_isDigit (Instant.isDigit_of_mem_fractionDigits hc)]
    rfl

theorem Token.all_offsetText (offset : Int) :
    (Instant.offsetText offset).all isInstantChar = true := by
  rw [Instant.offsetText, Instant.signOf]
  split
  · rfl
  · split <;> simp [all_padded, isInstantChar]

theorem Token.isLexeme_instant_text {t : Instant} (h : t.isWritable = true) :
    (Token.instant t.text).IsLexeme := by
  obtain ⟨hlow, hhigh, -⟩ := Instant.isWritable_iff.1 h
  rw [IsLexeme, Instant.toList_text h]
  constructor
  · have hlen : (Text.padded 4 t.date.year.natAbs).length = 4 :=
      Text.length_padded (by decide) (by omega)
    have hdigit : ∀ c ∈ Text.padded 4 t.date.year.natAbs, c.isDigit = true :=
      fun _ => Text.isDigit_of_mem_padded
    rw [Instant.dateText, List.append_assoc, List.cons_append]
    obtain ⟨a, b, c, d, hyear⟩ := List.length_eq_four.1 hlen
    rw [hyear] at hdigit ⊢
    simp [startsDate, hdigit a, hdigit b, hdigit c, hdigit d]
  · refine List.all_eq_true.1 ?_
    simp [Instant.dateText, Instant.timeText, Instant.threeParts, all_padded, all_fractionText,
      all_offsetText, show isInstantChar '-' = true from rfl,
      show isInstantChar ':' = true from rfl, show isInstantChar 'T' = true from rfl]

theorem Token.isLexeme_unit (unit : SpanUnit) : (Token.word unit.keyword).IsLexeme := by
  cases unit <;> exact ⟨rfl, rfl⟩

/-! ## Operands -/

/-- An operand is derived from its canonical tokens. -/
structure Operand.IsCanonical (v : Operand) : Prop where
  derives : Operand.Derives v.tokens v
  lexemes : AllLexemes v.tokens

theorem Operand.isCanonical_instant {t : Instant} (h : t.isWritable = true) :
    (Operand.instant t).IsCanonical where
  derives := .instant (Instant.ofText?_text h)
  lexemes := .cons (Token.isLexeme_instant_text h) .nil

theorem Operand.Derives.canonical {ts : List Token} {v : Operand} (h : Operand.Derives ts v)
    (hts : AllLexemes ts) : v.IsCanonical := by
  cases h with
  | text s =>
    rcases Operand.ofQuoted_eq s with ⟨t, hread, ht⟩ | ht
    · rw [ht]
      exact isCanonical_instant (Instant.isWritable_of_ofRfc3339? hread)
    · have hs := Operand.Derives.text s
      rw [ht] at hs ⊢
      exact ⟨hs, hts⟩
  | number hd =>
    exact ⟨.number (Decimal.ofPlain?_text _), .cons (Token.isLexeme_decimal _) .nil⟩
  | @span n w d amount unit hd hu ha hf =>
    obtain ⟨e, he⟩ := Decimal.ofPlain?_intDigits hf
    have hn : (String.ofList (Text.intDigits amount)).toList = Text.intDigits amount :=
      String.toList_ofList
    refine ⟨.span (hn ▸ he) ?_ (by rw [hn]; exact Text.intOfText?_intDigits amount) hf,
      .cons (Token.isLexeme_intDigits amount) (.cons (Token.isLexeme_unit unit) .nil)⟩
    cases unit <;> rfl
  | instant hi => exact isCanonical_instant (Instant.isWritable_of_ofText? hi)
  | truth hw => exact ⟨.truth (by decide), .cons ⟨rfl, rfl⟩ .nil⟩
  | falsity hw => exact ⟨.falsity (by decide), .cons ⟨rfl, rfl⟩ .nil⟩
  | null hw => exact ⟨.null (by decide), .cons ⟨rfl, rfl⟩ .nil⟩
  | call hw hd => exact ⟨.call hw hd, hts⟩
  | bareCall hw =>
    have hdot : ∀ w, IsBareCall w → w.toList.contains '.' = false := by
      rintro w (rfl | rfl) <;> rfl
    exact ⟨.call hw.isName (hdot _ hw),
      .cons (hts _ List.mem_cons_self) (.cons trivial (.cons trivial .nil))⟩
  | «variable» hw hb => exact ⟨.variable hw hb, hts⟩

theorem Operand.ItemsDerive.canonical {ts : List Token} {vs : List Operand}
    (h : Operand.ItemsDerive ts vs) (hts : AllLexemes ts) : ∀ v ∈ vs, v.IsCanonical := by
  induction h with
  | last hv => exact List.forall_mem_singleton.2 (hv.canonical (allLexemes_append.1 hts).1)
  | more hv _ ih =>
    obtain ⟨hl, hr⟩ := allLexemes_append.1 hts
    exact List.forall_mem_cons.2 ⟨hv.canonical hl, ih (allLexemes_cons.1 hr).2⟩

theorem Operand.ListDerives.canonical {ts : List Token} {vs : List Operand}
    (h : Operand.ListDerives ts vs) (hts : AllLexemes ts) : ∀ v ∈ vs, v.IsCanonical := by
  cases h with
  | none => exact fun v hv => absurd hv List.not_mem_nil
  | some h => exact h.canonical (allLexemes_cons.1 hts).2

/-- Operands in brackets, derived from their canonical tokens. -/
structure Operand.IsCanonicalList (vs : List Operand) : Prop where
  derives : Operand.ListDerives (Operand.listTokens vs) vs
  lexemes : AllLexemes (Operand.listTokens vs)

theorem Operand.isCanonical_items {v : Operand} {vs : List Operand}
    (h : ∀ w ∈ v :: vs, w.IsCanonical) :
    Operand.ItemsDerive (Operand.itemTokens (v :: vs)) (v :: vs) ∧
      AllLexemes (Operand.itemTokens (v :: vs)) := by
  induction vs generalizing v with
  | nil =>
    have hv := h v List.mem_cons_self
    exact ⟨.last hv.derives, allLexemes_append.2 ⟨hv.lexemes, .cons trivial .nil⟩⟩
  | cons w vs ih =>
    obtain ⟨hv, hrest⟩ := List.forall_mem_cons.1 h
    obtain ⟨hitems, hlexemes⟩ := ih hrest
    exact ⟨.more hv.derives hitems,
      allLexemes_append.2 ⟨hv.lexemes, .cons trivial hlexemes⟩⟩

theorem Operand.isCanonical_list {vs : List Operand} (h : ∀ v ∈ vs, v.IsCanonical) :
    Operand.IsCanonicalList vs := by
  cases vs with
  | nil => exact ⟨.none, .cons trivial (.cons trivial .nil)⟩
  | cons v vs =>
    obtain ⟨hitems, hlexemes⟩ := Operand.isCanonical_items h
    exact ⟨.some hitems, .cons trivial hlexemes⟩

/-! ## Expressions -/

section Connectives

variable {α : Type} {k : Connectives α} {Test : List Token → α → Prop} {tokens : α → List Token}

/-- What is derived as a test, or in parentheses, from its canonical tokens. -/
structure Connectives.IsCanonical (k : Connectives α) (Test : List Token → α → Prop)
    (tokens : α → List Token) (a : α) : Prop where
  derives : k.Derives Test .unary (tokens a) a
  lexemes : AllLexemes (tokens a)

theorem Connective.isLexeme_keyword (op : Connective) : (Token.word op.keyword).IsLexeme := by
  cases op <;> exact ⟨rfl, rfl⟩

theorem Connectives.IsCanonical.logical
    (htokens : ∀ a op b, tokens (k.logical a op b) = op.tokens (tokens a) (tokens b)) {a b : α}
    (ha : k.IsCanonical Test tokens a) (hb : k.IsCanonical Test tokens b) (op : Connective) :
    k.IsCanonical Test tokens (k.logical a op b) where
  derives := by
    have hparens : op.tokens (tokens a) (tokens b) =
        .leftParen :: (tokens a ++ .word op.keyword :: tokens b ++ [.rightParen]) := by
      simp [Connective.tokens]
    rw [htokens, hparens]
    refine .parens ?_
    cases op with
    | and => exact .disjunct (.and (.conjunct ha.derives) hb.derives)
    | or => exact .or (.disjunct (.conjunct ha.derives)) (.conjunct hb.derives)
  lexemes := by
    rw [htokens]
    exact .cons trivial (allLexemes_append.2 ⟨ha.lexemes,
      .cons op.isLexeme_keyword (allLexemes_append.2 ⟨hb.lexemes, .cons trivial .nil⟩)⟩)

theorem Connectives.IsCanonical.negation
    (htokens : ∀ a, tokens (k.negation a) = .word "NOT" :: tokens a) {a : α}
    (ha : k.IsCanonical Test tokens a) : k.IsCanonical Test tokens (k.negation a) where
  derives := by
    rw [htokens]
    exact .negation ha.derives
  lexemes := by
    rw [htokens]
    exact .cons ⟨rfl, rfl⟩ ha.lexemes

/-- Expressions are derived from their canonical tokens if tests are. -/
theorem Connectives.Derives.canonical
    (hnegation : ∀ a, tokens (k.negation a) = .word "NOT" :: tokens a)
    (hlogical : ∀ a op b, tokens (k.logical a op b) = op.tokens (tokens a) (tokens b))
    (htest : ∀ ts a, Test ts a → AllLexemes ts → k.IsCanonical Test tokens a)
    {level : Connectives.Level} {ts : List Token} {a : α} (h : k.Derives Test level ts a)
    (hts : AllLexemes ts) : k.IsCanonical Test tokens a := by
  induction h with
  | test h => exact htest _ _ h hts
  | negation _ ih => exact (ih (allLexemes_cons.1 hts).2).negation hnegation
  | parens _ ih => exact ih (allLexemes_append.1 (allLexemes_cons.1 hts).2).1
  | conjunct _ ih => exact ih hts
  | and _ _ iha ihb =>
    obtain ⟨hl, hr⟩ := allLexemes_append.1 hts
    exact (iha hl).logical hlogical (ihb (allLexemes_cons.1 hr).2) .and
  | disjunct _ ih => exact ih hts
  | or _ _ iha ihb =>
    obtain ⟨hl, hr⟩ := allLexemes_append.1 hts
    exact (iha hl).logical hlogical (ihb (allLexemes_cons.1 hr).2) .or

end Connectives

/-! ## Conditions and consequences -/

/-- A condition is derived from its canonical tokens. -/
abbrev Condition.IsCanonical (c : Condition) : Prop :=
  Condition.connectives.IsCanonical Condition.TestDerives Condition.tokens c

abbrev Consequence.IsCanonical (c : Consequence) : Prop :=
  Consequence.connectives.IsCanonical Consequence.TestDerives Consequence.tokens c

theorem Comparison.ofToken?_token (op : Comparison) : Comparison.ofToken? op.token = some op := by
  cases op <;> rfl

theorem Comparison.isLexeme_token (op : Comparison) : op.token.IsLexeme := by
  cases op with
  | like => exact ⟨rfl, rfl⟩
  | _ => trivial

theorem AllLexemes.around {t : Token} {ls rs : List Token} (hl : AllLexemes ls) (ht : t.IsLexeme)
    (hr : AllLexemes rs) : AllLexemes (ls ++ t :: rs) :=
  allLexemes_append.2 ⟨hl, .cons ht hr⟩

theorem AllLexemes.erase {t : Token} {ls rs : List Token} (h : AllLexemes (ls ++ t :: rs)) :
    AllLexemes (ls ++ rs) :=
  allLexemes_append.2 ⟨(allLexemes_append.1 h).1, (allLexemes_cons.1 (allLexemes_append.1 h).2).2⟩

/-- Two operands with a token between them. -/
theorem Operand.Derives.canonical_pair {t : Token} {l r : List Token} {left right : Operand}
    (hl : Operand.Derives l left) (hr : Operand.Derives r right)
    (hts : AllLexemes (l ++ t :: r)) : left.IsCanonical ∧ right.IsCanonical := by
  obtain ⟨hls, hrs⟩ := allLexemes_append.1 hts
  exact ⟨hl.canonical hls, hr.canonical (allLexemes_cons.1 hrs).2⟩

/-- An operand and a list with a token between them. -/
theorem Operand.Derives.canonical_list {t : Token} {l m : List Token} {value : Operand}
    {values : List Operand} (hl : Operand.Derives l value) (hm : Operand.ListDerives m values)
    (hts : AllLexemes (l ++ t :: m)) :
    value.IsCanonical ∧ Operand.IsCanonicalList values := by
  obtain ⟨hls, hms⟩ := allLexemes_append.1 hts
  exact ⟨hl.canonical hls, Operand.isCanonical_list (hm.canonical (allLexemes_cons.1 hms).2)⟩

section Tests

variable {value left right lower upper : Operand} {values : List Operand}

theorem Condition.isCanonical_comparison (op : Comparison) (hl : left.IsCanonical)
    (hr : right.IsCanonical) : (Condition.comparison left op right).IsCanonical where
  derives := .test (.comparison hl.derives op.ofToken?_token hr.derives)
  lexemes := hl.lexemes.around op.isLexeme_token hr.lexemes

theorem Condition.isCanonical_membership (hv : value.IsCanonical)
    (hvs : Operand.IsCanonicalList values) :
    (Condition.membership value values).IsCanonical where
  derives := .test (.membership hv.derives hvs.derives)
  lexemes := hv.lexemes.around ⟨rfl, rfl⟩ hvs.lexemes

theorem Condition.isCanonical_textTest (op : TextTest) (hl : left.IsCanonical)
    (hr : right.IsCanonical) : (Condition.textTest left op right).IsCanonical where
  derives := .test (.textTest op hl.derives hr.derives)
  lexemes := hl.lexemes.around (by cases op <;> exact ⟨rfl, rfl⟩) hr.lexemes

theorem TimeTest.allLexemes_tokens (op : TimeTest) : AllLexemes op.tokens := by
  cases op with
  | expires => exact .cons ⟨rfl, rfl⟩ (.cons ⟨rfl, rfl⟩ .nil)
  | _ => exact .cons ⟨rfl, rfl⟩ .nil

/-- Is a span asked for on the right-hand side? -/
def TimeTest.takesSpan : TimeTest → Bool
  | .within => true
  | .expires => true
  | _ => false

/-- What is asked for on the right-hand side of a test in time. -/
def TimeTest.Accepts (op : TimeTest) (reference : Operand) : Prop :=
  op.takesSpan = true → ∃ amount unit, reference = .span amount unit

theorem Condition.isCanonical_timeTest {op : TimeTest} (hl : left.IsCanonical)
    (hr : right.IsCanonical) (hop : op.Accepts right) :
    (Condition.timeTest left op right).IsCanonical where
  derives := by
    cases op with
    | before => exact .test (.before hl.derives hr.derives)
    | after => exact .test (.after hl.derives hr.derives)
    | within =>
      obtain ⟨amount, unit, rfl⟩ := hop rfl
      exact .test (.within hl.derives hr.derives)
    | expires =>
      obtain ⟨amount, unit, rfl⟩ := hop rfl
      exact .test (.expires hl.derives hr.derives)
  lexemes := allLexemes_append.2
    ⟨hl.lexemes, allLexemes_append.2 ⟨op.allLexemes_tokens, hr.lexemes⟩⟩

theorem Condition.isCanonical_truthiness (hv : value.IsCanonical) :
    (Condition.truthiness value).IsCanonical where
  derives := .test (.truthiness hv.derives)
  lexemes := hv.lexemes

theorem Condition.isCanonical_negation {c : Condition} (h : c.IsCanonical) :
    (Condition.negation c).IsCanonical := Connectives.IsCanonical.negation (fun _ => rfl) h

theorem Consequence.isCanonical_comparison (op : Comparison) (hl : left.IsCanonical)
    (hr : right.IsCanonical) : (Consequence.comparison left op right).IsCanonical where
  derives := .test (.comparison hl.derives op.ofToken?_token hr.derives)
  lexemes := hl.lexemes.around op.isLexeme_token hr.lexemes

theorem Consequence.isCanonical_membership (isNegated : Bool) (hv : value.IsCanonical)
    (hvs : Operand.IsCanonicalList values) :
    (Consequence.membership value isNegated values).IsCanonical := by
  cases isNegated with
  | false => exact ⟨.test (.membership hv.derives hvs.derives),
      hv.lexemes.around ⟨rfl, rfl⟩ hvs.lexemes⟩
  | true => exact ⟨.test (.nonMembership hv.derives hvs.derives),
      hv.lexemes.around ⟨rfl, rfl⟩ (.cons ⟨rfl, rfl⟩ hvs.lexemes)⟩

theorem Consequence.isCanonical_range (hv : value.IsCanonical) (hlo : lower.IsCanonical)
    (hhi : upper.IsCanonical) : (Consequence.range value lower upper).IsCanonical where
  derives := .test (.range hv.derives hlo.derives hhi.derives)
  lexemes := hv.lexemes.around ⟨rfl, rfl⟩ (hlo.lexemes.around ⟨rfl, rfl⟩ hhi.lexemes)

theorem Demand.isLexeme_token (demand : Demand) : demand.token.IsLexeme := by
  cases demand <;> exact ⟨rfl, rfl⟩

theorem Consequence.isCanonical_presence {path : String} (demand : Demand)
    (h : (Operand.variable path).IsCanonical) :
    (Consequence.presence (.variable path) demand).IsCanonical where
  derives := by
    cases demand with
    | required => exact .test (.required h.derives)
    | recommended => exact .test (.recommended h.derives)
  lexemes := .cons demand.isLexeme_token h.lexemes

theorem Consequence.isCanonical_literal {b : Bool} (h : (Operand.bool b).IsCanonical) :
    (Consequence.literal b).IsCanonical where
  derives := .test (.literal h.derives)
  lexemes := h.lexemes

theorem Consequence.isCanonical_truthiness {path : String}
    (h : (Operand.variable path).IsCanonical) :
    (Consequence.truthiness (.variable path)).IsCanonical where
  derives := .test (.truthiness h.derives)
  lexemes := h.lexemes

end Tests

theorem Condition.TestDerives.canonical {ts : List Token} {c : Condition}
    (h : Condition.TestDerives ts c) (hts : AllLexemes ts) : c.IsCanonical := by
  cases h with
  | @comparison l r t left right op hl ht hr =>
    obtain ⟨hleft, hright⟩ := hl.canonical_pair hr hts
    exact isCanonical_comparison op hleft hright
  | membership hl hm =>
    obtain ⟨hvalue, hvalues⟩ := hl.canonical_list hm hts
    exact isCanonical_membership hvalue hvalues
  | nonMembership hl hm =>
    obtain ⟨hvalue, hvalues⟩ := hl.canonical_list hm hts.erase
    exact isCanonical_negation (isCanonical_membership hvalue hvalues)
  | textTest op hl hr =>
    obtain ⟨hvalue, hpattern⟩ := hl.canonical_pair hr hts
    exact isCanonical_textTest op hvalue hpattern
  | before hl hr =>
    obtain ⟨hvalue, hreference⟩ := hl.canonical_pair hr hts
    exact isCanonical_timeTest hvalue hreference nofun
  | after hl hr =>
    obtain ⟨hvalue, hreference⟩ := hl.canonical_pair hr hts
    exact isCanonical_timeTest hvalue hreference nofun
  | within hl hr =>
    obtain ⟨hvalue, hreference⟩ := hl.canonical_pair hr hts
    exact isCanonical_timeTest hvalue hreference fun _ => ⟨_, _, rfl⟩
  | expires hl hr =>
    obtain ⟨hvalue, hreference⟩ := hl.canonical_pair hr hts.erase
    exact isCanonical_timeTest hvalue hreference fun _ => ⟨_, _, rfl⟩
  | truthiness hl => exact isCanonical_truthiness (hl.canonical hts)

theorem Condition.Derives.canonical {level : Connectives.Level} {ts : List Token} {c : Condition}
    (h : Condition.Derives level ts c) (hts : AllLexemes ts) : c.IsCanonical :=
  Connectives.Derives.canonical (fun _ => rfl) (fun _ _ _ => rfl)
    (fun _ _ => Condition.TestDerives.canonical) h hts

theorem Consequence.TestDerives.canonical {ts : List Token} {c : Consequence}
    (h : Consequence.TestDerives ts c) (hts : AllLexemes ts) : c.IsCanonical := by
  cases h with
  | @comparison l r t left right op hl ht hr =>
    obtain ⟨hleft, hright⟩ := hl.canonical_pair hr hts
    exact isCanonical_comparison op hleft hright
  | membership hl hm =>
    obtain ⟨hvalue, hvalues⟩ := hl.canonical_list hm hts
    exact isCanonical_membership false hvalue hvalues
  | nonMembership hl hm =>
    obtain ⟨hvalue, hvalues⟩ := hl.canonical_list hm hts.erase
    exact isCanonical_membership true hvalue hvalues
  | range hl hlo hhi =>
    obtain ⟨hls, hrs⟩ := allLexemes_append.1 hts
    obtain ⟨hlower, hupper⟩ := hlo.canonical_pair hhi (allLexemes_cons.1 hrs).2
    exact isCanonical_range (hl.canonical hls) hlower hupper
  | required hl =>
    exact isCanonical_presence .required (hl.canonical (allLexemes_cons.1 hts).2)
  | recommended hl =>
    exact isCanonical_presence .recommended (hl.canonical (allLexemes_cons.1 hts).2)
  | literal hl => exact isCanonical_literal (hl.canonical hts)
  | truthiness hl => exact isCanonical_truthiness (hl.canonical hts)

theorem Consequence.Derives.canonical {level : Connectives.Level} {ts : List Token}
    {c : Consequence} (h : Consequence.Derives level ts c) (hts : AllLexemes ts) :
    c.IsCanonical :=
  Connectives.Derives.canonical (fun _ => rfl) (fun _ _ _ => rfl)
    (fun _ _ => Consequence.TestDerives.canonical) h hts

/-! ## Rules -/

theorem Verb.isLexeme_keyword (verb : Verb) : (Token.word verb.keyword).IsLexeme := by
  cases verb <;> exact ⟨rfl, rfl⟩

theorem Verb.ofKeyword?_keyword (verb : Verb) : Verb.ofKeyword? verb.keyword = some verb := by
  cases verb <;> rfl

/-- The target of an action is a variable. -/
def Action.IsCanonical (a : Action) : Prop :=
  ∃ path, a.target = .variable path ∧ (Operand.variable path).IsCanonical

theorem Action.IsCanonical.eq_variable {a : Action} (h : a.IsCanonical) :
    ∃ verb path label, a = ⟨verb, .variable path, label⟩ ∧
      (Operand.variable path).IsCanonical := by
  obtain ⟨path, htarget, hpath⟩ := h
  exact ⟨a.verb, path, a.label, by rw [← htarget], hpath⟩

def Rule.Body.IsCanonical : Rule.Body → Prop
  | .consequence c => c.IsCanonical
  | .action a => a.IsCanonical

/-- Both parts of a rule are derived from their canonical tokens. -/
structure Rule.IsCanonical (r : Rule) : Prop where
  condition : r.condition.IsCanonical
  body : r.body.IsCanonical

theorem Action.Derives.canonical {ts : List Token} {a : Action} (h : Action.Derives ts a)
    (hts : AllLexemes ts) : a.IsCanonical := by
  cases h with
  | word hv ht hl =>
    exact ⟨_, rfl, ht.canonical (allLexemes_append.1 (allLexemes_cons.1 hts).2).1⟩
  | text hv ht =>
    exact ⟨_, rfl, ht.canonical (allLexemes_append.1 (allLexemes_cons.1 hts).2).1⟩

theorem Rule.Derives.canonical {ts : List Token} {r : Rule} (h : Rule.Derives ts r)
    (hts : AllLexemes ts) : r.IsCanonical := by
  obtain ⟨hc, hb⟩ := h
  obtain ⟨hcs, hrest⟩ := allLexemes_append.1 (allLexemes_cons.1 hts).2
  have hbs := (allLexemes_cons.1 (allLexemes_cons.1 hrest).2).2
  refine ⟨hc.canonical hcs, ?_⟩
  cases hb with
  | action ha => exact ha.canonical hbs
  | consequence hk => exact hk.canonical hbs

/-- The rule of a text is derived from its canonical tokens. -/
theorem Rule.isCanonical_of_parse {source : String} {r : Rule} (h : Rule.parse source = .ok r) :
    r.IsCanonical := by
  obtain ⟨used, q, -, hlexemes, hd⟩ := Rule.derives_of_parse h
  exact hd.canonical hlexemes

/-- The tokens in front of the body of a rule. -/
def Rule.headTokens (c : Condition) : List Token :=
  .word "WHEN" :: (c.tokens ++ [.word "THEN", .word "MUST"])

theorem Rule.toList_render (r : Rule) :
    r.render.toList = "WHEN".toList ++ ' ' :: (r.condition.render.toList ++
      ' ' :: ("THEN".toList ++ ' ' :: ("MUST".toList ++ ' ' :: r.body.render.toList))) := by
  simp [Rule.render]

/-- The text of a rule spells its head, and goes on with the body. -/
theorem Rule.spells_head {r : Rule} (h : r.condition.IsCanonical) :
    Spells (Rule.headTokens r.condition) r.render.toList (' ' :: r.body.render.toList) := by
  have hmust : Written [.word "MUST"] "MUST".toList := Written.token (t := .word "MUST") ⟨rfl, rfl⟩
  have hwhen : Written [.word "WHEN"] "WHEN".toList := Written.token (t := .word "WHEN") ⟨rfl, rfl⟩
  have hcondition := Condition.written h.lexemes
  have hhead := hwhen.blank (hcondition.between (t := .word "THEN") ⟨rfl, rfl⟩ hmust)
  have hspells := hhead (' ' :: r.body.render.toList) (breaks_cons rfl _)
  rw [Rule.toList_render]
  simpa [Rule.headTokens, Token.spelling] using hspells

/-- The text of an action spells its verb and target, and goes on with the label. -/
theorem Action.spells_head (verb : Verb) {path : String} (label : String)
    (h : (Operand.variable path).IsCanonical) :
    Spells [.word verb.keyword, .word path]
      (Action.render ⟨verb, .variable path, label⟩).toList (' ' :: label.toList) := by
  have hpath : Written [.word path] path.toList := Written.token (h.lexemes _ List.mem_cons_self)
  have hhead := (Written.token verb.isLexeme_keyword).blank hpath
  have hspells := hhead (' ' :: label.toList) (breaks_cons rfl _)
  simpa [Action.render, Operand.render, Token.spelling] using hspells

end Compliance
