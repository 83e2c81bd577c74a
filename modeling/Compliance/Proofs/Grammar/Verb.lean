import Compliance.Proofs.Grammar.Acceptance

/-!
# Compliance.Proofs.Grammar.Verb

Variables that have the name of a verb, at the start of a consequence.

* `wordsBehindOperand`              — the words that can follow an operand in a consequence.
* `Consequence.Derives.second_word` — a word behind such a variable is one of them.
* `Rule.Body.read_of_verb_reserved` — a verb in front of a reserved word is refused.
* `Rule.verb_as_variable`           — which consequences are read, and which are taken for actions.
-/

namespace Compliance

open Tokens

/-- The words that can follow an operand in a consequence. -/
def wordsBehindOperand : List String := ["LIKE", "IN", "NOT", "BETWEEN", "AND", "OR"]

theorem isReserved_of_mem_wordsBehindOperand {w : String} (h : w ∈ wordsBehindOperand) :
    isReserved w = true := by
  have hall : ∀ u ∈ wordsBehindOperand, isReserved u = true := by decide
  exact hall w h

/-! ## The second word -/

/-- What begins with two words has them both in its first part, or the second one behind it. -/
theorem eq_or_eq_of_append {ts us more : List Token} {a b t : Token} (hne : ts ≠ [])
    (h : ts ++ t :: us = a :: b :: more) : (∃ rest, ts = a :: b :: rest) ∨ t = b := by
  match ts with
  | [] => exact absurd rfl hne
  | [c] =>
    cases h
    exact .inr rfl
  | c :: d :: rest =>
    cases h
    exact .inl ⟨rest, rfl⟩

/-- No operand begins with two words. -/
theorem Operand.Derives.ne_words {ts : List Token} {o : Operand} (h : Operand.Derives ts o)
    (v w : String) (more : List Token) : ts ≠ .word v :: .word w :: more := by
  cases h <;> simp

theorem Operand.Derives.second_word {l us more : List Token} {o : Operand} {t : Token}
    {v w : String} (h : Operand.Derives l o) (heq : l ++ t :: us = .word v :: .word w :: more) :
    t = .word w := by
  have hne : l ≠ [] := by
    obtain ⟨t, us, rfl, -⟩ := h.head
    exact List.cons_ne_nil t us
  rcases eq_or_eq_of_append hne heq with ⟨rest, hl⟩ | ht
  · exact absurd hl (h.ne_words v w rest)
  · exact ht

theorem Consequence.TestDerives.second_word {ts more : List Token} {k : Consequence} {v w : String}
    (h : Consequence.TestDerives ts k) (hts : ts = .word v :: .word w :: more)
    (hv : (Verb.ofKeyword? v).isSome = true) : w ∈ wordsBehindOperand := by
  cases h with
  | comparison hl ht hr =>
    obtain rfl := hl.second_word hts
    rw [Comparison.eq_like_of_word ht]
    decide
  | membership hl hm =>
    cases hl.second_word hts
    decide
  | nonMembership hl hm =>
    cases hl.second_word hts
    decide
  | range hl hlo hhi =>
    cases hl.second_word hts
    decide
  | required hl =>
    cases hts
    cases hv
  | recommended hl =>
    cases hts
    cases hv
  | literal hl => exact absurd hts (hl.ne_words v w more)
  | truthiness hl => exact absurd hts (hl.ne_words v w more)

/-- Where a consequence begins with the name of a verb, only some words can follow it. -/
theorem Consequence.Derives.second_word {level : Connectives.Level} {ts more : List Token}
    {k : Consequence} {v w : String} (h : Consequence.Derives level ts k)
    (hts : ts = .word v :: .word w :: more) (hv : (Verb.ofKeyword? v).isSome = true) :
    w ∈ wordsBehindOperand := by
  have hne {level : Connectives.Level} {us : List Token} {k : Consequence}
      (h : Consequence.Derives level us k) : us ≠ [] := by
    obtain ⟨t, us, rfl, -⟩ := h.head Consequence.agrees
    exact List.cons_ne_nil t us
  induction h generalizing more with
  | test ht => exact ht.second_word hts hv
  | negation h ih =>
    cases hts
    cases hv
  | parens h ih => cases hts
  | conjunct h ih => exact ih hts
  | and ha hb iha ihb =>
    rcases eq_or_eq_of_append (hne ha) hts with ⟨rest, hfirst⟩ | hand
    · exact iha hfirst
    · cases hand
      decide
  | disjunct h ih => exact ih hts
  | or ha hb iha ihb =>
    rcases eq_or_eq_of_append (hne ha) hts with ⟨rest, hfirst⟩ | hor
    · exact iha hfirst
    · cases hor
      decide

/-! ## Reading -/

/-- The target of an action is no reserved word. -/
theorem Rule.Body.read_of_verb_reserved {v w : String} (hv : (Verb.ofKeyword? v).isSome = true)
    (hw : isReserved w = true) (p q : Position) (rest : Tokens) :
    Rule.Body.read (⟨.word v, p⟩ :: ⟨.word w, q⟩ :: rest) = .error ⟨q, .keywordAsValue w⟩ := by
  obtain ⟨verb, hverb⟩ := Option.isSome_iff_exists.1 hv
  have htarget : Operand.read (⟨.word w, q⟩ :: rest) = .error ⟨q, .keywordAsValue w⟩ := by
    simp [Operand.read, Operand.readWord, hw, Tokens.refuse, Tokens.peek]
  simp [Rule.Body.read, nextVerb?, hverb, andThen, Action.read, htarget]

/-- A rule is refused where its body is. -/
theorem Rule.read_of_body_error {cs ts : Tokens} {c : Condition} {d : Diagnostic}
    (hc : Condition.Derives .disjunction cs.kinds c) (hts : ts.next ≠ .endOfInput)
    (hbody : Rule.Body.read ts = .error d) (p q r : Position) :
    Rule.read (⟨.word "WHEN", p⟩ ::
      (cs ++ ⟨.word "THEN", q⟩ :: ⟨.word "MUST", r⟩ :: ts)) = .error d := by
  have hthen : Tokens.EndsExpression (⟨.word "THEN", q⟩ :: ⟨.word "MUST", r⟩ :: ts) :=
    .inr (.inr rfl)
  have hcond := Condition.read_of_derives hc rfl hthen
  simp [Rule.read, hcond, hbody, bind, Except.bind, hts]

/-- Behind a condition and `MUST`, tokens that are read as a consequence up to their end are the
body of a rule, unless they start with the name of a verb and another word: then the second word is
refused as the target of an action. They are never read as an action. -/
theorem Rule.verb_as_variable {source : String} {cs ks : Tokens} {p q r e f : Position}
    {c : Condition} {k : Consequence}
    (hscan : Token.scan source = .ok (⟨.word "WHEN", p⟩ ::
      (cs ++ ⟨.word "THEN", q⟩ :: ⟨.word "MUST", r⟩ :: (ks ++ [⟨.endOfInput, e⟩]))))
    (hc : Condition.read (cs ++ [⟨.endOfInput, f⟩]) = .ok (c, [⟨.endOfInput, f⟩]))
    (hk : Consequence.read (ks ++ [⟨.endOfInput, e⟩]) = .ok (k, [⟨.endOfInput, e⟩])) :
    (startsAction ks.kinds = false → Rule.parse source = .ok ⟨c, .consequence k⟩) ∧
    (startsAction ks.kinds = true → ∃ v w pv pw more, ks = ⟨.word v, pv⟩ :: ⟨.word w, pw⟩ :: more ∧
      (Verb.ofKeyword? v).isSome = true ∧ w ∈ wordsBehindOperand ∧
      Rule.parse source = .error ⟨pw, .keywordAsValue w⟩) ∧
    (∀ rule, Rule.parse source = .ok rule → rule = ⟨c, .consequence k⟩) := by
  obtain ⟨_, hcs, hc⟩ := Condition.derives_of_read hc
  obtain rfl := List.append_cancel_right hcs
  obtain ⟨_, hks, hk⟩ := Consequence.derives_of_read hk
  obtain rfl := List.append_cancel_right hks
  have hread (hs : startsAction ks.kinds = false) :
      Rule.parse source = .ok ⟨c, .consequence k⟩ := by
    have hrule : Rule.Derives
        (.word "WHEN" :: (cs.kinds ++ .word "THEN" :: .word "MUST" :: ks.kinds))
        ⟨c, .consequence k⟩ := .intro hc (.consequence hk hs)
    have hused : Token.scan source = .ok ((⟨.word "WHEN", p⟩ ::
        (cs ++ ⟨.word "THEN", q⟩ :: ⟨.word "MUST", r⟩ :: ks)) ++ [⟨.endOfInput, e⟩]) := by
      simpa using hscan
    exact Rule.parse_of_derives hused (by simpa using hrule)
  have hrefused (hs : startsAction ks.kinds = true) : ∃ v w pv pw more,
      ks = ⟨.word v, pv⟩ :: ⟨.word w, pw⟩ :: more ∧ (Verb.ofKeyword? v).isSome = true ∧
      w ∈ wordsBehindOperand ∧ Rule.parse source = .error ⟨pw, .keywordAsValue w⟩ := by
    obtain ⟨v, w, more, hwords, hv⟩ := words_of_startsAction hs
    have hw := hk.second_word hwords hv
    obtain ⟨pv, us, rfl, hus⟩ := kinds_eq_cons hwords
    obtain ⟨pw, us, rfl, -⟩ := kinds_eq_cons hus
    refine ⟨v, w, pv, pw, us, rfl, hv, hw, ?_⟩
    have hbody := Rule.Body.read_of_verb_reserved hv (isReserved_of_mem_wordsBehindOperand hw) pv pw
      (us ++ [⟨.endOfInput, e⟩])
    rw [Rule.parse, hscan]
    exact Rule.read_of_body_error hc (by simp) hbody p q r
  refine ⟨hread, hrefused, fun rule hrule => ?_⟩
  cases hs : startsAction ks.kinds with
  | false =>
    rw [hread hs] at hrule
    exact (Except.ok.inj hrule).symm
  | true =>
    obtain ⟨v, w, pv, pw, more, -, -, -, herror⟩ := hrefused hs
    rw [herror] at hrule
    cases hrule

/-- `FLAG` in a list, and `FLAG` in a comparison. -/
theorem Rule.verb_as_variable_flag :
    (∃ d, Rule.parse "WHEN active THEN MUST FLAG IN [1, 2]" = .error d ∧
      d.fault = .keywordAsValue "IN") ∧
    Rule.parse "WHEN active THEN MUST FLAG = TRUE" =
      .ok ⟨.truthiness (.variable "active"),
        .consequence (.comparison (.variable "FLAG") .equal (.bool true))⟩ := by
  have hlist : Token.scan "WHEN active THEN MUST FLAG IN [1, 2]" =
      .ok (⟨.word "WHEN", ⟨1, 1⟩⟩ :: ([⟨.word "active", ⟨1, 6⟩⟩] ++ ⟨.word "THEN", ⟨1, 13⟩⟩ ::
        ⟨.word "MUST", ⟨1, 18⟩⟩ :: ([⟨.word "FLAG", ⟨1, 23⟩⟩, ⟨.word "IN", ⟨1, 28⟩⟩,
          ⟨.leftBracket, ⟨1, 31⟩⟩, ⟨.number "1", ⟨1, 32⟩⟩, ⟨.comma, ⟨1, 33⟩⟩,
          ⟨.number "2", ⟨1, 35⟩⟩, ⟨.rightBracket, ⟨1, 36⟩⟩] ++ [⟨.endOfInput, ⟨1, 37⟩⟩]))) := by
    decide +kernel
  have hequal : Token.scan "WHEN active THEN MUST FLAG = TRUE" =
      .ok (⟨.word "WHEN", ⟨1, 1⟩⟩ :: ([⟨.word "active", ⟨1, 6⟩⟩] ++ ⟨.word "THEN", ⟨1, 13⟩⟩ ::
        ⟨.word "MUST", ⟨1, 18⟩⟩ :: ([⟨.word "FLAG", ⟨1, 23⟩⟩, ⟨.equal, ⟨1, 28⟩⟩,
          ⟨.word "TRUE", ⟨1, 30⟩⟩] ++ [⟨.endOfInput, ⟨1, 34⟩⟩]))) := by
    decide +kernel
  obtain ⟨-, hrefused, -⟩ := Rule.verb_as_variable (f := ⟨1, 13⟩) hlist rfl rfl
  obtain ⟨v, w, pv, pw, more, hks, -, -, hparse⟩ := hrefused rfl
  obtain ⟨hread, -⟩ := Rule.verb_as_variable (f := ⟨1, 13⟩) hequal rfl rfl
  cases hks
  exact ⟨⟨_, hparse, rfl⟩, hread rfl⟩

end Compliance
