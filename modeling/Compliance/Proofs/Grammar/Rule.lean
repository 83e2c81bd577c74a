import Compliance.Proofs.Except
import Compliance.Proofs.Grammar.Test

/-!
# Compliance.Proofs.Grammar.Rule

Reading actions and rules agrees with their grammar.

* `Rule.derives_of_read`  — what is read is derivable from the tokens up to the end of input.
* `Rule.read_of_derives`  — what is derivable is read, in front of the end of input.
-/

namespace Compliance

open Tokens

/-! ## Actions -/

theorem Operand.ofQuoted_eq (s : String) :
    (∃ t, Instant.ofRfc3339? s.toList = some t ∧ Operand.ofQuoted s = .instant t) ∨
      Operand.ofQuoted s = .text s := by
  simp only [Operand.ofQuoted]
  split
  · split
    · rename_i t ht
      exact .inl ⟨t, ht, rfl⟩
    · exact .inr rfl
  · exact .inr rfl

theorem Operand.ofQuoted_ne_variable (s path : String) :
    Operand.ofQuoted s ≠ .variable path := by
  rcases Operand.ofQuoted_eq s with ⟨t, -, h⟩ | h <;> rw [h] <;> simp

/-- A variable is written as its path. -/
theorem Operand.Derives.eq_path {ts : List Token} {path : String}
    (h : Operand.Derives ts (.variable path)) :
    ts = [.word path] ∧ IsName path ∧ ¬ IsBareCall path := by
  generalize hv : Operand.variable path = v at h
  cases h with
  | text s => exact absurd hv.symm (Operand.ofQuoted_ne_variable s path)
  | «variable» hw hb =>
    cases hv
    exact ⟨rfl, hw, hb⟩
  | _ => cases hv

theorem Action.read_eq_ok {verb : Verb} {ts rest : Tokens} {a : Action}
    (h : Action.read verb ts = .ok (a, rest)) :
    ∃ (used : Tokens) (path : String) (t : Token), ts = used ++ rest ∧
      used.kinds = [.word path, t] ∧ Operand.Derives [.word path] (.variable path) ∧
      a.verb = verb ∧ a.target = .variable path ∧
      ((t = .word a.label ∧ isReserved a.label = false) ∨ t = .text a.label) := by
  simp only [Action.read] at h
  split at h
  · cases h
  · rename_i path mid hv
    obtain ⟨l, rfl, hl⟩ := Operand.derives_of_read hv
    obtain ⟨label, hlabel, rfl⟩ := andThen_eq_ok h
    obtain ⟨hpath, -, -⟩ := hl.eq_path
    simp only [Action.readLabel] at hlabel
    split at hlabel
    · rename_i w hw
      split at hlabel
      · cases hlabel
      · rename_i hr; cases hlabel
        obtain ⟨used, hts, hused⟩ := append_of_next l hw (by simp) (List.nil_append _).symm
        refine ⟨used, path, _, hts, by rw [hused, hpath]; rfl, hpath ▸ hl, rfl, rfl, .inl ?_⟩
        exact ⟨rfl, by simpa using hr⟩
    · rename_i s hs; cases hlabel
      obtain ⟨used, hts, hused⟩ := append_of_next l hs (by simp) (List.nil_append _).symm
      exact ⟨used, path, _, hts, by rw [hused, hpath]; rfl, hpath ▸ hl, rfl, rfl, .inr rfl⟩
    · cases hlabel
  · cases h

/-! ## Bodies -/

theorem nextVerb_of_startsAction {ts rest : Tokens} (h : startsAction ts.kinds = true) :
    nextVerb? (ts ++ rest) ≠ none := by
  obtain ⟨v, w, more, hwords, hv⟩ := words_of_startsAction h
  obtain ⟨p, us, rfl, hus⟩ := kinds_eq_cons hwords
  obtain ⟨q, us, rfl, -⟩ := kinds_eq_cons hus
  exact Option.isSome_iff_ne_none.1 hv

theorem nextVerb_eq_none {ts rest : Tokens} (h : startsAction ts.kinds = false)
    (hne : ts.kinds ≠ []) (hend : rest.next = .endOfInput) : nextVerb? (ts ++ rest) = none := by
  match ts with
  | [] => exact absurd rfl hne
  | [t] => simp [nextVerb?, hend]
  | t :: u :: ts =>
    simp only [nextVerb?, List.cons_append, next_cons, skip_cons]
    split
    · rename_i v w ht hu
      simpa [startsAction, ht, hu] using h
    · rfl

theorem nextVerb_eq_some {ts : Tokens} {verb : Verb} (h : nextVerb? ts = some verb) :
    ∃ (w : String) (p : Position), ts = ⟨.word w, p⟩ :: ts.skip ∧
      Verb.ofKeyword? w = some verb := by
  simp only [nextVerb?] at h
  split at h
  · rename_i w _ hw _
    obtain ⟨p, hts⟩ := eq_cons_of_next hw (by simp)
    exact ⟨w, p, hts, h⟩
  · cases h

/-- A verb and a target are read as far as the label, whatever stands there. -/
theorem Rule.Body.read_action {w path : String} {verb : Verb} {t : Token} {rest : Tokens}
    (hv : Verb.ofKeyword? w = some verb) (ht : Operand.Derives [.word path] (.variable path))
    (hparen : t ≠ .leftParen) (p q r : Position) :
    Rule.Body.read (⟨.word w, p⟩ :: ⟨.word path, q⟩ :: ⟨t, r⟩ :: rest) =
      andThen (Action.readLabel verb) (fun label => .action ⟨verb, .variable path, label⟩)
        (⟨t, r⟩ :: rest) := by
  obtain ⟨-, hname, hbare⟩ := ht.eq_path
  have hread : Operand.read (⟨.word path, q⟩ :: ⟨t, r⟩ :: rest) =
      .ok (.variable path, ⟨t, r⟩ :: rest) :=
    (Operand.readWord_name hname (by simpa using hparen)).trans (if_neg hbare)
  have haction : Action.read verb (⟨.word path, q⟩ :: ⟨t, r⟩ :: rest) =
      andThen (Action.readLabel verb) (⟨verb, .variable path, ·⟩) (⟨t, r⟩ :: rest) := by
    simp only [Action.read, hread]
  simp only [Rule.Body.read, nextVerb?, next_cons, skip_cons, hv, andThen, haction]
  split <;> rename_i hlabel <;> split at hlabel <;> cases hlabel <;> rfl

theorem Rule.Body.derives_of_read {ts rest : Tokens} {b : Rule.Body}
    (h : Rule.Body.read ts = .ok (b, rest)) :
    ∃ used : Tokens, ts = used ++ rest ∧ Rule.Body.Derives used.kinds b := by
  simp only [Rule.Body.read] at h
  split at h
  · rename_i verb hverb
    obtain ⟨a, ha, rfl⟩ := andThen_eq_ok h
    obtain ⟨w, p, hts, hw⟩ := nextVerb_eq_some hverb
    obtain ⟨used, path, t, hskip, hused, ht, rfl, htarget, hlabel⟩ := Action.read_eq_ok ha
    refine ⟨⟨.word w, p⟩ :: used, by rw [hts, hskip]; rfl, .action ?_⟩
    obtain ⟨verb, target, label⟩ := a
    cases htarget
    rcases hlabel with ⟨rfl, hr⟩ | rfl
    · simpa [hused] using .word hw ht hr
    · simpa [hused] using .text hw ht
  · rename_i hverb
    obtain ⟨c, hc, rfl⟩ := andThen_eq_ok h
    obtain ⟨used, rfl, hd⟩ := Consequence.derives_of_read hc
    refine ⟨used, rfl, .consequence hd ?_⟩
    cases hs : startsAction used.kinds with
    | false => rfl
    | true => exact absurd hverb (nextVerb_of_startsAction hs)

theorem Rule.Body.read_of_derives {used : List Token} {b : Rule.Body}
    (h : Rule.Body.Derives used b) {ts rest : Tokens} (hts : ts.kinds = used)
    (hend : rest.next = .endOfInput) : Rule.Body.read (ts ++ rest) = .ok (b, rest) := by
  cases h with
  | action ha =>
    cases ha with
    | word hv ht hl =>
      obtain ⟨rfl, -, -⟩ := ht.eq_path
      obtain ⟨p, us, rfl, hus⟩ := kinds_eq_cons hts
      obtain ⟨q, vs, rfl, hvs⟩ := kinds_eq_cons hus
      obtain ⟨r, rfl⟩ := kinds_eq_singleton hvs
      refine (Rule.Body.read_action hv ht (by simp) p q r).trans ?_
      simp [andThen, Action.readLabel, hl]
    | text hv ht =>
      obtain ⟨rfl, -, -⟩ := ht.eq_path
      obtain ⟨p, us, rfl, hus⟩ := kinds_eq_cons hts
      obtain ⟨q, vs, rfl, hvs⟩ := kinds_eq_cons hus
      obtain ⟨r, rfl⟩ := kinds_eq_singleton hvs
      exact Rule.Body.read_action hv ht (by simp) p q r
  | consequence hc hs =>
    obtain ⟨t, ks, rfl, -⟩ := hc.head Consequence.agrees
    have hverb := nextVerb_eq_none (hts ▸ hs) (by simp [hts]) hend
    simp only [Rule.Body.read, hverb]
    exact andThen_of_ok _ (Consequence.read_of_derives hc hts (.inl hend))

/-! ## Rules -/

/-- What is read as a rule is derivable from the tokens in front of the end of input. -/
theorem Rule.derives_of_read {ts : Tokens} {r : Rule} (h : Rule.read ts = .ok r) :
    ∃ used rest : Tokens, ts = used ++ rest ∧ rest.next = .endOfInput ∧
      Rule.Derives used.kinds r := by
  simp only [Rule.read] at h
  split at h
  · cases h
  · obtain ⟨ts₁, hwhen, h⟩ := Except.bind_eq_ok h
    obtain ⟨⟨condition, ts₂⟩, hcond, h⟩ := Except.bind_eq_ok h
    obtain ⟨ts₃, hthen, h⟩ := Except.bind_eq_ok h
    obtain ⟨ts₄, hmust, h⟩ := Except.bind_eq_ok h
    split at h
    · cases h
    · obtain ⟨⟨body, ts₅⟩, hbody, h⟩ := Except.bind_eq_ok h
      split at h
      · rename_i hend; cases h
        obtain ⟨p, rfl⟩ := eq_of_expectWord hwhen
        obtain ⟨cs, rfl, hc⟩ := Condition.derives_of_read hcond
        obtain ⟨q, rfl⟩ := eq_of_expectWord hthen
        obtain ⟨r, rfl⟩ := eq_of_expectWord hmust
        obtain ⟨bs, rfl, hb⟩ := Rule.Body.derives_of_read hbody
        refine ⟨⟨.word "WHEN", p⟩ :: (cs ++ ⟨.word "THEN", q⟩ :: ⟨.word "MUST", r⟩ :: bs), ts₅,
          by simp, by simpa using hend, ?_⟩
        simpa using .intro hc hb
      · cases h

theorem Rule.Body.Derives.head {ts : List Token} {b : Rule.Body} (h : Rule.Body.Derives ts b) :
    ∃ t us, ts = t :: us ∧ t ≠ .endOfInput := by
  cases h with
  | action ha => cases ha <;> exact ⟨_, _, rfl, by simp⟩
  | consequence hc => exact hc.head Consequence.agrees

theorem Rule.read_of_derives {used : List Token} {r : Rule} (h : Rule.Derives used r)
    {ts rest : Tokens} (hts : ts.kinds = used) (hend : rest.next = .endOfInput) :
    Rule.read (ts ++ rest) = .ok r := by
  obtain ⟨hc, hb⟩ := h
  obtain ⟨p, us, rfl, hus⟩ := kinds_eq_cons hts
  obtain ⟨cs, q, vs, rfl, hcs, hvs⟩ := kinds_eq_infix hus
  obtain ⟨r, bs, rfl, hbs⟩ := kinds_eq_cons hvs
  have hthen : Tokens.EndsExpression (⟨.word "THEN", q⟩ :: ⟨.word "MUST", r⟩ :: (bs ++ rest)) :=
    .inr (.inr rfl)
  have hcond := Condition.read_of_derives hc hcs hthen
  have hbody := Rule.Body.read_of_derives hb hbs hend
  obtain ⟨t, ks, rfl, ht⟩ := hb.head
  obtain ⟨q', bs', rfl, -⟩ := kinds_eq_cons hbs
  rw [List.cons_append] at hcond hbody
  simp [Rule.read, hcond, hbody, bind, Except.bind, ht, hend]

end Compliance
