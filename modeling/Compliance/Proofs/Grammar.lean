import Compliance.Rule.Reading

/-!
# Compliance.Proofs.Grammar

The grammar of rule text, as relations between the kinds of tokens and what they derive.

* `Operand.Derives`          — operands, and operands in brackets (`Operand.ListDerives`).
* `Connectives.Derives`      — expressions over tests of any kind, at three levels of binding.
* `Condition.TestDerives`    — the eight tests of a condition.
* `Consequence.TestDerives`  — the demands of a consequence.
* `Rule.Derives`             — whole rules, with a consequence or an action (`Action.Derives`).

Nothing here says how tokens are read: the relations have no order of attempts, no fuel and no
positions.
-/

namespace Compliance

/-! ## Tokens -/

/-- The kinds of tokens, without their positions. -/
def Tokens.kinds (ts : Tokens) : List Token := ts.map PlacedToken.token

namespace Tokens

@[simp] theorem kinds_nil : kinds [] = [] := rfl

@[simp] theorem kinds_cons (t : PlacedToken) (ts : Tokens) :
    kinds (t :: ts) = t.token :: ts.kinds := rfl

@[simp] theorem kinds_append (ts us : Tokens) : kinds (ts ++ us) = ts.kinds ++ us.kinds :=
  List.map_append

@[simp] theorem length_kinds (ts : Tokens) : ts.kinds.length = List.length ts := List.length_map _

@[simp] theorem next_cons (t : PlacedToken) (ts : Tokens) : next (t :: ts) = t.token := rfl

@[simp] theorem skip_cons (t : PlacedToken) (ts : Tokens) : skip (t :: ts) = ts := rfl

/-- A next token other than the end of input is there. -/
theorem eq_cons_of_next {ts : Tokens} {t : Token} (h : ts.next = t) (ht : t ≠ .endOfInput) :
    ∃ p, ts = ⟨t, p⟩ :: ts.skip := by
  cases ts with
  | nil => exact absurd h.symm ht
  | cons u ts => exact ⟨u.position, by rw [← h]; rfl⟩

theorem eq_cons_of_startsWith {ts : Tokens} {w : String} (h : ts.startsWith w = true) :
    ∃ p, ts = ⟨.word w, p⟩ :: ts.skip :=
  eq_cons_of_next (by simpa [startsWith] using h) (by simp)

theorem kinds_eq_cons {ts : Tokens} {k : Token} {ks : List Token} (h : ts.kinds = k :: ks) :
    ∃ (p : Position) (us : Tokens), ts = ⟨k, p⟩ :: us ∧ us.kinds = ks := by
  cases ts with
  | nil => cases h
  | cons t us =>
    cases h
    exact ⟨t.position, us, rfl, rfl⟩

theorem kinds_eq_append {ts : Tokens} {ks ls : List Token} (h : ts.kinds = ks ++ ls) :
    ∃ us vs : Tokens, ts = us ++ vs ∧ us.kinds = ks ∧ vs.kinds = ls :=
  List.map_eq_append_iff.1 h

theorem kinds_eq_infix {ts : Tokens} {k : Token} {ks ls : List Token}
    (h : ts.kinds = ks ++ k :: ls) :
    ∃ (us : Tokens) (p : Position) (vs : Tokens),
      ts = us ++ ⟨k, p⟩ :: vs ∧ us.kinds = ks ∧ vs.kinds = ls := by
  obtain ⟨us, ws, rfl, hus, hws⟩ := kinds_eq_append h
  obtain ⟨p, vs, rfl, hvs⟩ := kinds_eq_cons hws
  exact ⟨us, p, vs, rfl, hus, hvs⟩

theorem kinds_eq_singleton {ts : Tokens} {k : Token} (h : ts.kinds = [k]) :
    ∃ p, ts = [⟨k, p⟩] := by
  obtain ⟨p, us, rfl, hus⟩ := kinds_eq_cons h
  exact ⟨p, by rw [List.map_eq_nil_iff.1 hus]⟩

@[simp] theorem startsWith_cons (w : String) (t : PlacedToken) (ts : Tokens) :
    startsWith w (t :: ts) = (t.token == .word w) := rfl

end Tokens

/-! ## Operands -/

/-- A word that can name something: it is not reserved, and it writes no literal. -/
structure IsName (w : String) : Prop where
  not_reserved : isReserved w = false
  not_true : equalIgnoringCase w "true" = false
  not_false : equalIgnoringCase w "false" = false
  not_null : equalIgnoringCase w "null" = false

/-- The functions that are called without parentheses. -/
def IsBareCall (w : String) : Prop := w = "NOW" ∨ w = "TODAY"

inductive Operand.Derives : List Token → Operand → Prop where
  | text (s : String) : Derives [.text s] (Operand.ofQuoted s)
  | number {n : String} {d : Decimal} (hd : Decimal.ofPlain? n.toList = .ok d) :
      Derives [.number n] (.number d)
  | span {n w : String} {d : Decimal} {amount : Int} {unit : SpanUnit}
      (hd : Decimal.ofPlain? n.toList = .ok d) (hu : SpanUnit.ofKeyword? w = some unit)
      (ha : Text.intOfText? n.toList = some amount) (hf : Text.fitsInt64 amount = true) :
      Derives [.number n, .word w] (.span amount unit)
  | instant {t : String} {i : Instant} (hi : Instant.ofText? t.toList = some i) :
      Derives [.instant t] (.instant i)
  | truth {w : String} (hw : equalIgnoringCase w "true" = true) : Derives [.word w] (.bool true)
  | falsity {w : String} (hw : equalIgnoringCase w "false" = true) :
      Derives [.word w] (.bool false)
  | null {w : String} (hw : equalIgnoringCase w "null" = true) : Derives [.word w] .null
  | call {w : String} (hw : IsName w) (hd : w.toList.contains '.' = false) :
      Derives [.word w, .leftParen, .rightParen] (.call w)
  | bareCall {w : String} (hw : IsBareCall w) : Derives [.word w] (.call w)
  | variable {w : String} (hw : IsName w) (hb : ¬ IsBareCall w) : Derives [.word w] (.variable w)

/-- Operands with commas between them, and the bracket that closes them. -/
inductive Operand.ItemsDerive : List Token → List Operand → Prop where
  | last {ts : List Token} {v : Operand} (hv : Operand.Derives ts v) :
      ItemsDerive (ts ++ [.rightBracket]) [v]
  | more {ts us : List Token} {v : Operand} {vs : List Operand} (hv : Operand.Derives ts v)
      (hvs : ItemsDerive us vs) : ItemsDerive (ts ++ .comma :: us) (v :: vs)

inductive Operand.ListDerives : List Token → List Operand → Prop where
  | none : ListDerives [.leftBracket, .rightBracket] []
  | some {ts : List Token} {vs : List Operand} (h : Operand.ItemsDerive ts vs) :
      ListDerives (.leftBracket :: ts) vs

/-! ## Expressions -/

/-- How tightly an expression binds: a test, negation or parenthesis, items joined by `AND`, or
items joined by `OR`. -/
inductive Connectives.Level where
  | unary
  | conjunction
  | disjunction

/-- The expressions over the tests that `Test` derives. Both connectives associate to the left. -/
inductive Connectives.Derives {α : Type} (k : Connectives α) (Test : List Token → α → Prop) :
    Connectives.Level → List Token → α → Prop where
  | test {ts : List Token} {a : α} (h : Test ts a) : Derives k Test .unary ts a
  | negation {ts : List Token} {a : α} (h : Derives k Test .unary ts a) :
      Derives k Test .unary (.word "NOT" :: ts) (k.negation a)
  | parens {ts : List Token} {a : α} (h : Derives k Test .disjunction ts a) :
      Derives k Test .unary (.leftParen :: (ts ++ [.rightParen])) a
  | conjunct {ts : List Token} {a : α} (h : Derives k Test .unary ts a) :
      Derives k Test .conjunction ts a
  | and {ts us : List Token} {a b : α} (ha : Derives k Test .conjunction ts a)
      (hb : Derives k Test .unary us b) :
      Derives k Test .conjunction (ts ++ .word "AND" :: us) (k.logical a .and b)
  | disjunct {ts : List Token} {a : α} (h : Derives k Test .conjunction ts a) :
      Derives k Test .disjunction ts a
  | or {ts us : List Token} {a b : α} (ha : Derives k Test .disjunction ts a)
      (hb : Derives k Test .conjunction us b) :
      Derives k Test .disjunction (ts ++ .word "OR" :: us) (k.logical a .or b)

/-! ## Tests -/

inductive Condition.TestDerives : List Token → Condition → Prop where
  | comparison {l r : List Token} {t : Token} {left right : Operand} {op : Comparison}
      (hl : Operand.Derives l left) (ht : Comparison.ofToken? t = some op)
      (hr : Operand.Derives r right) : TestDerives (l ++ t :: r) (.comparison left op right)
  | membership {l m : List Token} {value : Operand} {values : List Operand}
      (hl : Operand.Derives l value) (hm : Operand.ListDerives m values) :
      TestDerives (l ++ .word "IN" :: m) (.membership value values)
  | nonMembership {l m : List Token} {value : Operand} {values : List Operand}
      (hl : Operand.Derives l value) (hm : Operand.ListDerives m values) :
      TestDerives (l ++ .word "NOT" :: .word "IN" :: m) (.negation (.membership value values))
  | textTest {l r : List Token} {value pattern : Operand} (op : TextTest)
      (hl : Operand.Derives l value) (hr : Operand.Derives r pattern) :
      TestDerives (l ++ .word op.keyword :: r) (.textTest value op pattern)
  | before {l r : List Token} {value reference : Operand} (hl : Operand.Derives l value)
      (hr : Operand.Derives r reference) :
      TestDerives (l ++ .word "BEFORE" :: r) (.timeTest value .before reference)
  | after {l r : List Token} {value reference : Operand} (hl : Operand.Derives l value)
      (hr : Operand.Derives r reference) :
      TestDerives (l ++ .word "AFTER" :: r) (.timeTest value .after reference)
  | within {l r : List Token} {value : Operand} {amount : Int} {unit : SpanUnit}
      (hl : Operand.Derives l value) (hr : Operand.Derives r (.span amount unit)) :
      TestDerives (l ++ .word "WITHIN" :: r) (.timeTest value .within (.span amount unit))
  | expires {l r : List Token} {value : Operand} {amount : Int} {unit : SpanUnit}
      (hl : Operand.Derives l value) (hr : Operand.Derives r (.span amount unit)) :
      TestDerives (l ++ .word "EXPIRES" :: .word "AFTER" :: r)
        (.timeTest value .expires (.span amount unit))
  | truthiness {l : List Token} {value : Operand} (hl : Operand.Derives l value) :
      TestDerives l (.truthiness value)

inductive Consequence.TestDerives : List Token → Consequence → Prop where
  | comparison {l r : List Token} {t : Token} {left right : Operand} {op : Comparison}
      (hl : Operand.Derives l left) (ht : Comparison.ofToken? t = some op)
      (hr : Operand.Derives r right) : TestDerives (l ++ t :: r) (.comparison left op right)
  | membership {l m : List Token} {value : Operand} {values : List Operand}
      (hl : Operand.Derives l value) (hm : Operand.ListDerives m values) :
      TestDerives (l ++ .word "IN" :: m) (.membership value false values)
  | nonMembership {l m : List Token} {value : Operand} {values : List Operand}
      (hl : Operand.Derives l value) (hm : Operand.ListDerives m values) :
      TestDerives (l ++ .word "NOT" :: .word "IN" :: m) (.membership value true values)
  | range {l lo hi : List Token} {value lower upper : Operand} (hl : Operand.Derives l value)
      (hlo : Operand.Derives lo lower) (hhi : Operand.Derives hi upper) :
      TestDerives (l ++ .word "BETWEEN" :: (lo ++ .word "AND" :: hi)) (.range value lower upper)
  | required {l : List Token} {path : String} (hl : Operand.Derives l (.variable path)) :
      TestDerives (.word "REQUIRE" :: l) (.presence (.variable path) .required)
  | recommended {l : List Token} {path : String} (hl : Operand.Derives l (.variable path)) :
      TestDerives (.word "RECOMMEND" :: l) (.presence (.variable path) .recommended)
  | literal {l : List Token} {b : Bool} (hl : Operand.Derives l (.bool b)) :
      TestDerives l (.literal b)
  | truthiness {l : List Token} {path : String} (hl : Operand.Derives l (.variable path)) :
      TestDerives l (.truthiness (.variable path))

/-- The expressions of a condition, at a level of binding. -/
abbrev Condition.Derives : Connectives.Level → List Token → Condition → Prop :=
  Condition.connectives.Derives Condition.TestDerives

/-- The expressions of a consequence, at a level of binding. -/
abbrev Consequence.Derives : Connectives.Level → List Token → Consequence → Prop :=
  Consequence.connectives.Derives Consequence.TestDerives

/-! ## Rules -/

/-- A verb, a variable, and a label: a word that is not reserved, or any text. -/
inductive Action.Derives : List Token → Action → Prop where
  | word {w path label : String} {verb : Verb} {ts : List Token}
      (hv : Verb.ofKeyword? w = some verb) (ht : Operand.Derives ts (.variable path))
      (hl : isReserved label = false) :
      Derives (.word w :: (ts ++ [.word label])) ⟨verb, .variable path, label⟩
  | text {w path label : String} {verb : Verb} {ts : List Token}
      (hv : Verb.ofKeyword? w = some verb) (ht : Operand.Derives ts (.variable path)) :
      Derives (.word w :: (ts ++ [.text label])) ⟨verb, .variable path, label⟩

/-- A verb with another word behind it. -/
def startsAction : List Token → Bool
  | .word v :: .word _ :: _ => (Verb.ofKeyword? v).isSome
  | _ => false

theorem words_of_startsAction {ts : List Token} (h : startsAction ts = true) :
    ∃ v w more, ts = .word v :: .word w :: more ∧ (Verb.ofKeyword? v).isSome = true := by
  unfold startsAction at h
  split at h
  · exact ⟨_, _, _, rfl, h⟩
  · cases h

/-- What starts like an action is no consequence, even if it could be read as one. -/
inductive Rule.Body.Derives : List Token → Rule.Body → Prop where
  | action {ts : List Token} {a : Action} (h : Action.Derives ts a) : Derives ts (.action a)
  | consequence {ts : List Token} {c : Consequence} (h : Consequence.Derives .disjunction ts c)
      (hs : startsAction ts = false) : Derives ts (.consequence c)

inductive Rule.Derives : List Token → Rule → Prop where
  | intro {cs bs : List Token} {condition : Condition} {body : Rule.Body}
      (hc : Condition.Derives .disjunction cs condition) (hb : Rule.Body.Derives bs body) :
      Derives (.word "WHEN" :: (cs ++ .word "THEN" :: .word "MUST" :: bs)) ⟨condition, body⟩

end Compliance
