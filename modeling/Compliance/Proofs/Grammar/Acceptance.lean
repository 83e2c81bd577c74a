import Compliance.Proofs.Grammar.Unique

/-!
# Compliance.Proofs.Grammar.Acceptance

What stands between `WHEN` and `THEN`, and behind `MUST`, is read exactly if the grammar derives it.

* `Condition.derives_unique`, `Consequence.derives_unique` — tokens derive one tree at most.
* `Rule.reads_exactly_derivable` — conditions and consequences of any length.
-/

namespace Compliance

open Tokens

/-! ## One tree -/

theorem Tokens.endsExpression_placed_endOfInput : (placed [.endOfInput]).EndsExpression := .inl rfl

theorem Condition.derives_unique {ts : List Token} {c d : Condition}
    (hc : Condition.Derives .disjunction ts c) (hd : Condition.Derives .disjunction ts d) :
    c = d := by
  have hends := endsExpression_placed_endOfInput
  obtain ⟨heq, -⟩ := Connectives.derives_unique Condition.agrees hc hd hends hends rfl
  exact heq

theorem Consequence.derives_unique {ts : List Token} {c d : Consequence}
    (hc : Consequence.Derives .disjunction ts c) (hd : Consequence.Derives .disjunction ts d) :
    c = d := by
  have hends := endsExpression_placed_endOfInput
  obtain ⟨heq, -⟩ := Connectives.derives_unique Consequence.agrees hc hd hends hends rfl
  exact heq

theorem Operand.derives_TRUE : Operand.Derives [.word "TRUE"] (.bool true) := .truth (by decide)

theorem Condition.derives_TRUE :
    Condition.Derives .disjunction [.word "TRUE"] (.truthiness (.bool true)) :=
  .disjunct (.conjunct (.test (.truthiness Operand.derives_TRUE)))

theorem Consequence.derives_TRUE :
    Consequence.Derives .disjunction [.word "TRUE"] (.literal true) :=
  .disjunct (.conjunct (.test (.literal Operand.derives_TRUE)))

/-! ## Bodies -/

theorem Action.Derives.startsAction {ts : List Token} {a : Action} (h : Action.Derives ts a) :
    startsAction ts = true := by
  cases h with
  | word hv ht hl =>
    obtain ⟨rfl, -, -⟩ := ht.eq_path
    simp [Compliance.startsAction, hv]
  | text hv ht =>
    obtain ⟨rfl, -, -⟩ := ht.eq_path
    simp [Compliance.startsAction, hv]

/-- A body that does not start like an action is a consequence. -/
theorem Rule.Body.derives_iff {ts : List Token} (h : startsAction ts = false) (b : Rule.Body) :
    Rule.Body.Derives ts b ↔ ∃ k, Consequence.Derives .disjunction ts k ∧ b = .consequence k := by
  constructor
  · intro hb
    cases hb with
    | action ha =>
      rw [ha.startsAction] at h
      cases h
    | consequence hk => exact ⟨_, hk, rfl⟩
  · rintro ⟨k, hk, rfl⟩
    exact .consequence hk h

/-! ## Rules -/

/-- `THEN` stands nowhere but between the condition and the body. -/
theorem Rule.derives_iff {cs bs : List Token} {r : Rule} :
    Rule.Derives (.word "WHEN" :: (cs ++ .word "THEN" :: .word "MUST" :: bs)) r ↔
      Condition.Derives .disjunction cs r.condition ∧ Rule.Body.Derives bs r.body := by
  constructor
  · intro h
    generalize hts : Token.word "WHEN" :: (cs ++ .word "THEN" :: .word "MUST" :: bs) = ts at h
    cases h with
    | @intro cs' bs' condition body hc hb =>
      have hcs : Token.word "THEN" ∉ cs' := hc.noDelimiter.notMem rfl
      have hbs : Token.word "THEN" ∉ Token.word "MUST" :: bs' := by
        simpa using hb.noDelimiter.notMem (t := .word "THEN") rfl
      -- neither part contains `THEN`, so both ways to cut the tokens there are the same
      obtain ⟨-, htail⟩ := List.cons.inj hts
      obtain ⟨rfl, -, hrest⟩ := (List.append_cons_inj_of_notMem hcs hbs).1 htail.symm
      obtain ⟨-, rfl⟩ := List.cons.inj hrest
      exact ⟨hc, hb⟩
  · rintro ⟨hc, hb⟩
    exact .intro hc hb

/-- Between `WHEN` and `THEN` stands what derives a condition, and behind `MUST`, unless it starts
like an action, what derives a consequence. There is one tree each, and that is what is read. -/
theorem Rule.reads_exactly_derivable :
    (∀ (cs : List Token) (ts : Tokens), .endOfInput ∉ cs →
      ts.kinds = .word "WHEN" ::
        (cs ++ [.word "THEN", .word "MUST", .word "TRUE", .endOfInput]) →
      ∀ r, Rule.read ts = .ok r ↔
        ∃ c, Condition.Derives .disjunction cs c ∧ r = ⟨c, .consequence (.literal true)⟩) ∧
    (∀ (ks : List Token) (ts : Tokens), .endOfInput ∉ ks → startsAction ks = false →
      ts.kinds = .word "WHEN" :: .word "TRUE" :: .word "THEN" :: .word "MUST" ::
        (ks ++ [.endOfInput]) →
      ∀ r, Rule.read ts = .ok r ↔
        ∃ k, Consequence.Derives .disjunction ks k ∧
          r = ⟨.truthiness (.bool true), .consequence k⟩) ∧
    (∀ (cs : List Token) (c d : Condition), Condition.Derives .disjunction cs c →
      Condition.Derives .disjunction cs d → c = d) ∧
    (∀ (ks : List Token) (k l : Consequence), Consequence.Derives .disjunction ks k →
      Consequence.Derives .disjunction ks l → k = l) := by
  refine ⟨?_, ?_, ?_, ?_⟩
  · intro cs ts hcs hts r
    have hused : Token.endOfInput ∉
        Token.word "WHEN" :: (cs ++ .word "THEN" :: .word "MUST" :: [.word "TRUE"]) := by
      simpa using hcs
    have hbody : startsAction [.word "TRUE"] = false := rfl
    rw [Rule.read_iff_derives (by simpa using hts) hused, Rule.derives_iff,
      Rule.Body.derives_iff hbody]
    obtain ⟨condition, body⟩ := r
    constructor
    · rintro ⟨hc, k, hk, rfl⟩
      -- `TRUE` derives one tree only, so the body is the one that was read
      obtain rfl := Consequence.derives_unique hk Consequence.derives_TRUE
      exact ⟨condition, hc, rfl⟩
    · rintro ⟨c, hc, ⟨⟩⟩
      exact ⟨hc, _, Consequence.derives_TRUE, rfl⟩
  · intro ks ts hks hverb hts r
    have hused : Token.endOfInput ∉
        Token.word "WHEN" :: ([.word "TRUE"] ++ .word "THEN" :: .word "MUST" :: ks) := by
      simpa using hks
    rw [Rule.read_iff_derives (by simpa using hts) hused, Rule.derives_iff,
      Rule.Body.derives_iff hverb]
    obtain ⟨condition, body⟩ := r
    constructor
    · rintro ⟨hc, k, hk, rfl⟩
      obtain rfl := Condition.derives_unique hc Condition.derives_TRUE
      exact ⟨k, hk, rfl⟩
    · rintro ⟨k, hk, ⟨⟩⟩
      exact ⟨Condition.derives_TRUE, k, hk, rfl⟩
  · intro cs c d
    exact Condition.derives_unique
  · intro ks k l
    exact Consequence.derives_unique

/-- `a OR NOT b AND c`, and `x BETWEEN l AND h AND y`. -/
theorem Rule.reads_exactly_derivable_precedence :
    Condition.Derives .disjunction
        [.word "a", .word "OR", .word "NOT", .word "b", .word "AND", .word "c"]
        (.logical (.truthiness (.variable "a")) .or
          (.logical (.negation (.truthiness (.variable "b"))) .and
            (.truthiness (.variable "c")))) ∧
    startsAction [.word "x", .word "BETWEEN", .word "l", .word "AND", .word "h", .word "AND",
      .word "y"] = false ∧
    Consequence.Derives .disjunction
        [.word "x", .word "BETWEEN", .word "l", .word "AND", .word "h", .word "AND", .word "y"]
        (.logical (.range (.variable "x") (.variable "l") (.variable "h")) .and
          (.truthiness (.variable "y"))) := by
  obtain ⟨hconditions, hconsequences, -⟩ := Rule.reads_exactly_derivable
  obtain ⟨c, hc, hr⟩ := (hconditions
    [.word "a", .word "OR", .word "NOT", .word "b", .word "AND", .word "c"]
    (placed [.word "WHEN", .word "a", .word "OR", .word "NOT", .word "b", .word "AND", .word "c",
      .word "THEN", .word "MUST", .word "TRUE", .endOfInput])
    (by decide) rfl ⟨_, _⟩).1 rfl
  obtain ⟨k, hk, hs⟩ := (hconsequences
    [.word "x", .word "BETWEEN", .word "l", .word "AND", .word "h", .word "AND", .word "y"]
    (placed [.word "WHEN", .word "TRUE", .word "THEN", .word "MUST", .word "x", .word "BETWEEN",
      .word "l", .word "AND", .word "h", .word "AND", .word "y", .endOfInput])
    (by decide) rfl rfl ⟨_, _⟩).1 rfl
  cases hr
  cases hs
  exact ⟨hc, rfl, hk⟩

end Compliance
