import Compliance.Proofs.Grammar.Verb
import Compliance.Proofs.Rule.Canonical

/-!
# Compliance.Proofs.Rule.Identity

The canonical text identifies a rule.

* `Consequence.startsLikeAction`     — consequences whose text begins like that of an action.
* `Rule.eq_of_render_eq`             — rules with the same text, both derived from their tokens.
* `Rule.eq_of_parse_of_render_eq`    — parsed rules with the same text.
-/

namespace Compliance

open Tokens

/-! ## Consequences that begin like actions -/

/-- A demand on a variable that has the name of a verb, with a word behind that variable. -/
def Consequence.startsLikeAction : Consequence → Bool
  | .comparison (.variable path) .like _ => (Verb.ofKeyword? path).isSome
  | .membership (.variable path) _ _ => (Verb.ofKeyword? path).isSome
  | .range (.variable path) _ _ => (Verb.ofKeyword? path).isSome
  | _ => false

/-- An operand with more tokens behind it begins like an action if it is a variable, and the next
token is a word. -/
theorem Operand.startsAction_tokens (v : Operand) (t : Token) (ts : List Token) :
    startsAction (v.tokens ++ t :: ts) =
      match v, t with
      | .variable path, .word _ => (Verb.ofKeyword? path).isSome
      | _, _ => false := by
  cases v with
  | «variable» path => cases t <;> rfl
  | bool b => cases b <;> cases t <;> rfl
  | null => cases t <;> rfl
  | _ => rfl

theorem Operand.startsAction_self (v : Operand) : startsAction v.tokens = false := by
  cases v with
  | bool b => cases b <;> rfl
  | _ => rfl

theorem Consequence.startsAction_tokens (c : Consequence) :
    startsAction c.tokens = c.startsLikeAction := by
  cases c with
  | comparison left op right =>
    rw [tokens, Operand.startsAction_tokens]
    cases left <;> cases op <;> rfl
  | membership value isNegated values =>
    cases isNegated <;> rw [tokens, Operand.startsAction_tokens] <;> cases value <;> rfl
  | range value lower upper =>
    rw [tokens, Operand.startsAction_tokens]
    cases value <;> rfl
  | presence value demand =>
    rw [tokens]
    cases demand <;> cases value.tokens with
    | nil => rfl
    | cons t ts => cases t <;> rfl
  | logical left op right => rfl
  | negation inner =>
    rw [tokens]
    cases inner.tokens with
    | nil => rfl
    | cons t ts => cases t <;> rfl
  | literal b => exact Operand.startsAction_self (.bool b)
  | truthiness value => exact Operand.startsAction_self value

/-! ## Parts of rules -/

theorem Condition.IsCanonical.disjunction {c : Condition} (h : c.IsCanonical) :
    Condition.Derives .disjunction c.tokens c := .disjunct (.conjunct h.derives)

theorem Consequence.IsCanonical.disjunction {c : Consequence} (h : c.IsCanonical) :
    Consequence.Derives .disjunction c.tokens c := .disjunct (.conjunct h.derives)

theorem Consequence.eq_of_render_eq {c d : Consequence} (hc : c.IsCanonical) (hd : d.IsCanonical)
    (h : c.render = d.render) : c = d := by
  have hspells := Consequence.written hc.lexemes [] breaks_nil
  have hspells' := Consequence.written hd.lexemes [] breaks_nil
  rw [h] at hspells
  have htokens : c.tokens ++ [] = d.tokens ++ [] := by rw [hspells.unique hspells']
  exact (Connectives.derives_unique Consequence.agrees hc.disjunction hd.disjunction (.inl rfl)
    (.inl rfl) htokens).1

theorem Verb.keyword_injective {v w : Verb} (h : v.keyword = w.keyword) : v = w := by
  have hread := v.ofKeyword?_keyword
  rw [h, w.ofKeyword?_keyword] at hread
  exact (Option.some.inj hread).symm

theorem Action.eq_of_render_eq {a b : Action} (ha : a.IsCanonical) (hb : b.IsCanonical)
    (h : a.render = b.render) : a = b := by
  obtain ⟨verb, path, label, rfl, hpath⟩ := ha.eq_variable
  obtain ⟨verb', path', label', rfl, hpath'⟩ := hb.eq_variable
  have hspells := Action.spells_head verb label hpath
  have hspells' := Action.spells_head verb' label' hpath'
  rw [h] at hspells
  have heads : verb = verb' ∧ path = path' := by
    rcases hspells.comparable hspells' with ⟨more, hmore, -⟩ | ⟨more, hmore, -⟩ <;>
    · simp only [List.cons_append, List.cons.injEq, Token.word.injEq] at hmore
      obtain ⟨hverb, hpaths, -⟩ := hmore
      first
        | exact ⟨Verb.keyword_injective hverb.symm, hpaths.symm⟩
        | exact ⟨Verb.keyword_injective hverb, hpaths⟩
  obtain ⟨rfl, rfl⟩ := heads
  -- what is left of the two texts behind their equal heads are the labels
  have hlabel : label = label' := by
    simpa [Action.render, ← String.toList_inj] using h
  rw [hlabel]

/-- No consequence has the text of an action. -/
theorem Rule.Body.consequence_render_ne {c : Consequence} {a : Action} (hc : c.IsCanonical)
    (ha : a.IsCanonical) : c.render ≠ a.render := by
  intro h
  obtain ⟨verb, path, label, rfl, hpath⟩ := ha.eq_variable
  have hspells := Consequence.written hc.lexemes [] breaks_nil
  have hspells' := Action.spells_head verb label hpath
  rw [List.append_nil, h] at hspells
  have hname : isReserved path = false := by
    obtain ⟨-, hname, -⟩ := hpath.derives.eq_path
    exact hname.not_reserved
  have htokens : ∃ more, c.tokens = .word verb.keyword :: .word path :: more := by
    rcases hspells.comparable hspells' with ⟨more, hmore, hrest⟩ | ⟨more, hmore, -⟩
    · obtain ⟨rfl, -⟩ := hrest.eq_nil
      exact ⟨[], by rw [hmore, List.append_nil]⟩
    · exact ⟨more, hmore⟩
  obtain ⟨more, hmore⟩ := htokens
  have hreserved := isReserved_of_mem_wordsBehindOperand
    (hc.disjunction.second_word hmore (by rw [verb.ofKeyword?_keyword]; rfl))
  rw [hname] at hreserved
  cases hreserved

theorem Rule.Body.eq_of_render_eq {a b : Rule.Body} (ha : a.IsCanonical) (hb : b.IsCanonical)
    (h : a.render = b.render) : a = b := by
  cases a with
  | consequence c =>
    cases b with
    | consequence d => rw [Consequence.eq_of_render_eq ha hb h]
    | action b => exact absurd h (consequence_render_ne ha hb)
  | action a =>
    cases b with
    | consequence d => exact absurd h.symm (consequence_render_ne hb ha)
    | action b => rw [Action.eq_of_render_eq ha hb h]

/-! ## Rules -/

/-- The head of a rule can be told from what goes on behind it. -/
theorem Rule.headTokens_unique {c d : Condition} {ts us vs : List Token} (hc : c.IsCanonical)
    (hd : Condition.Derives .disjunction ts d)
    (h : Rule.headTokens c ++ us = .word "WHEN" :: (ts ++ .word "THEN" :: .word "MUST" :: vs)) :
    c = d ∧ us = vs := by
  have hthen (ws : List Token) : (placed (.word "THEN" :: ws)).EndsExpression := .inr (.inr rfl)
  rw [headTokens, List.cons_append, List.append_assoc] at h
  obtain ⟨hcondition, hrest⟩ := Connectives.derives_unique Condition.agrees hc.disjunction hd
    (hthen _) (hthen _) (List.cons.inj h).2
  exact ⟨hcondition, (List.cons.inj (List.cons.inj hrest).2).2⟩

/-- The condition of a rule can be told from its text. -/
theorem Rule.condition_eq_of_render_eq {r s : Rule} (hr : r.condition.IsCanonical)
    (hs : s.condition.IsCanonical) (h : r.render = s.render) : r.condition = s.condition := by
  have hspells := Rule.spells_head hr
  have hspells' := Rule.spells_head hs
  rw [h] at hspells
  rcases hspells.comparable hspells' with ⟨more, hmore, -⟩ | ⟨more, hmore, -⟩
  · exact (Rule.headTokens_unique hr hs.disjunction hmore.symm).1
  · exact (Rule.headTokens_unique hs hr.disjunction hmore.symm).1.symm

theorem Rule.eq_of_render_eq {r s : Rule} (hr : r.IsCanonical) (hs : s.IsCanonical)
    (h : r.render = s.render) : r = s := by
  have hcondition := Rule.condition_eq_of_render_eq hr.condition hs.condition h
  have hbody : r.body.render = s.body.render := by
    have htext : r.render.toList = s.render.toList := by rw [h]
    rw [Rule.toList_render, Rule.toList_render, hcondition] at htext
    simpa [String.toList_inj] using htext
  obtain ⟨c, body⟩ := r
  obtain ⟨d, body'⟩ := s
  simp only at hcondition hbody
  have heq : body = body' := Rule.Body.eq_of_render_eq hr.body hs.body hbody
  rw [hcondition, heq]

/-- Parsed rules with the same canonical text are the same rule. -/
theorem Rule.eq_of_parse_of_render_eq {source source' : String} {r s : Rule}
    (hr : Rule.parse source = .ok r) (hs : Rule.parse source' = .ok s)
    (h : r.render = s.render) : r = s :=
  Rule.eq_of_render_eq (Rule.isCanonical_of_parse hr) (Rule.isCanonical_of_parse hs) h

/-- A quote written both ways, with and without parentheses that change nothing. -/
theorem Rule.eq_of_parse_of_render_eq_parens :
    ∃ r s : Rule, Rule.parse "WHEN 'a''' THEN MUST b" = .ok r ∧
      Rule.parse "WHEN ('a\\'') THEN MUST b" = .ok s ∧ r.render = s.render ∧ r = s := by
  have hscan : Token.scan "WHEN 'a''' THEN MUST b" =
      .ok [⟨.word "WHEN", ⟨1, 1⟩⟩, ⟨.text "a'", ⟨1, 6⟩⟩, ⟨.word "THEN", ⟨1, 12⟩⟩,
        ⟨.word "MUST", ⟨1, 17⟩⟩, ⟨.word "b", ⟨1, 22⟩⟩, ⟨.endOfInput, ⟨1, 23⟩⟩] := by decide +kernel
  have hscan' : Token.scan "WHEN ('a\\'') THEN MUST b" =
      .ok [⟨.word "WHEN", ⟨1, 1⟩⟩, ⟨.leftParen, ⟨1, 6⟩⟩, ⟨.text "a'", ⟨1, 7⟩⟩,
        ⟨.rightParen, ⟨1, 12⟩⟩, ⟨.word "THEN", ⟨1, 14⟩⟩, ⟨.word "MUST", ⟨1, 19⟩⟩,
        ⟨.word "b", ⟨1, 24⟩⟩, ⟨.endOfInput, ⟨1, 25⟩⟩] := by decide +kernel
  have hr := Rule.parse_of_read hscan (r := ⟨.truthiness (.text "a'"),
    .consequence (.truthiness (.variable "b"))⟩) rfl
  have hs := Rule.parse_of_read hscan' (r := ⟨.truthiness (.text "a'"),
    .consequence (.truthiness (.variable "b"))⟩) rfl
  exact ⟨_, _, hr, hs, rfl, Rule.eq_of_parse_of_render_eq hr hs rfl⟩

end Compliance
