import Compliance.Proofs.Grammar

/-!
# Compliance.Proofs.Grammar.Operand

Reading operands agrees with their grammar.

* `Operand.derives_of_read`        — what is read is derivable from the tokens it takes.
* `Operand.read_of_derives`        — what is derivable is read, in front of tokens that end an
  operand.
* `Operand.listDerives_of_readList`, `Operand.readList_of_derives` — the same for bracketed lists.
-/

namespace Compliance

open Tokens

/-! ## Words -/

theorem equalIgnoringCase_congr {w s : String} (h : equalIgnoringCase w s = true) (t : String) :
    equalIgnoringCase w t = equalIgnoringCase s t := by
  simp only [equalIgnoringCase, beq_iff_eq] at h ⊢
  rw [h]

theorem mem_reservedWords {w : String} (h : isReserved w = true) : w ∈ reservedWords := by
  simpa [isReserved] using h

/-- No reserved word writes a literal, whatever the case of its letters. -/
theorem equalIgnoringCase_of_reserved {w : String} (h : isReserved w = true) :
    equalIgnoringCase w "true" = false ∧ equalIgnoringCase w "false" = false ∧
      equalIgnoringCase w "null" = false := by
  have all : ∀ w ∈ reservedWords, equalIgnoringCase w "true" = false ∧
      equalIgnoringCase w "false" = false ∧ equalIgnoringCase w "null" = false := by
    decide
  exact all w (mem_reservedWords h)

theorem not_reserved_of_true {w : String} (h : equalIgnoringCase w "true" = true) :
    isReserved w = false := by
  cases hr : isReserved w with
  | false => rfl
  | true => rw [(equalIgnoringCase_of_reserved hr).1] at h; cases h

theorem not_reserved_of_false {w : String} (h : equalIgnoringCase w "false" = true) :
    isReserved w = false := by
  cases hr : isReserved w with
  | false => rfl
  | true => rw [(equalIgnoringCase_of_reserved hr).2.1] at h; cases h

theorem not_reserved_of_null {w : String} (h : equalIgnoringCase w "null" = true) :
    isReserved w = false := by
  cases hr : isReserved w with
  | false => rfl
  | true => rw [(equalIgnoringCase_of_reserved hr).2.2] at h; cases h

theorem IsBareCall.isName {w : String} (h : IsBareCall w) : IsName w := by
  rcases h with rfl | rfl
  · exact ⟨by decide, by decide, by decide, by decide⟩
  · exact ⟨by decide, by decide, by decide, by decide⟩

/-! ## From reading to derivations -/

theorem Operand.derives_of_readWord {w : String} {ts rest rest' : Tokens} {v : Operand}
    (h : Operand.readWord w ts rest = .ok (v, rest')) :
    ∃ used : Tokens, rest = used ++ rest' ∧ Operand.Derives (.word w :: used.kinds) v := by
  simp only [Operand.readWord] at h
  split at h
  · cases h
  · rename_i hr
    split at h
    · rename_i ht; cases h
      exact ⟨[], rfl, .truth ht⟩
    · rename_i ht
      split at h
      · rename_i hf; cases h
        exact ⟨[], rfl, .falsity hf⟩
      · rename_i hf
        split at h
        · rename_i hn; cases h
          exact ⟨[], rfl, .null hn⟩
        · rename_i hn
          have hname : IsName w := ⟨by simpa using hr, by simpa using ht, by simpa using hf,
            by simpa using hn⟩
          split at h
          · rename_i hp
            split at h
            · cases h
            · rename_i hd
              split at h
              · rename_i hc; cases h
                obtain ⟨p, hrest⟩ := eq_cons_of_next (beq_iff_eq.1 hp) (by simp)
                obtain ⟨q, hskip⟩ := eq_cons_of_next (beq_iff_eq.1 hc) (by simp)
                refine ⟨[⟨.leftParen, p⟩, ⟨.rightParen, q⟩], ?_,
                  .call hname (by simpa using hd)⟩
                rw [hrest, hskip]
                rfl
              · cases h
          · split at h
            · rename_i hb; cases h
              exact ⟨[], rfl, .bareCall (by simpa [IsBareCall] using hb)⟩
            · rename_i hb; cases h
              exact ⟨[], rfl, .variable hname (by simpa [IsBareCall] using hb)⟩

theorem Operand.derives_of_readNumber {n : String} {ts rest rest' : Tokens} {v : Operand}
    (h : Operand.readNumber n ts rest = .ok (v, rest')) :
    ∃ used : Tokens, rest = used ++ rest' ∧ Operand.Derives (.number n :: used.kinds) v := by
  simp only [Operand.readNumber] at h
  split at h
  · cases h
  · rename_i d hd
    split at h
    · cases h
      exact ⟨[], rfl, .number hd⟩
    · rename_i unit hu
      split at h
      · cases h
      · rename_i amount ha; cases h
        obtain ⟨hi, hf⟩ := Option.filter_eq_some_iff.1 ha
        simp only [nextUnit?] at hu
        split at hu
        · rename_i w hw
          obtain ⟨p, hrest⟩ := eq_cons_of_next hw (by simp)
          refine ⟨[⟨.word w, p⟩], ?_, .span hd hu hi hf⟩
          rw [hrest]
          rfl
        · cases hu

/-- What is read as an operand is derivable from the tokens that it takes. -/
theorem Operand.derives_of_read {ts rest : Tokens} {v : Operand}
    (h : Operand.read ts = .ok (v, rest)) :
    ∃ used : Tokens, ts = used ++ rest ∧ Operand.Derives used.kinds v := by
  cases ts with
  | nil => cases h
  | cons t ts =>
    obtain ⟨token, p⟩ := t
    simp only [Operand.read, next_cons, skip_cons] at h
    split at h
    · rename_i s; cases h
      exact ⟨[⟨.text s, p⟩], rfl, .text s⟩
    · rename_i n
      obtain ⟨used, rfl, hd⟩ := derives_of_readNumber h
      exact ⟨⟨.number n, p⟩ :: used, rfl, hd⟩
    · rename_i t
      split at h
      · rename_i i hi; cases h
        exact ⟨[⟨.instant t, p⟩], rfl, .instant hi⟩
      · cases h
    · rename_i w
      obtain ⟨used, rfl, hd⟩ := derives_of_readWord h
      exact ⟨⟨.word w, p⟩ :: used, rfl, hd⟩
    · cases h

theorem Operand.itemsDerive_of_readMore {fuel : Nat} {ts rest : Tokens} {vs : List Operand}
    (h : Operand.readMore fuel ts = .ok (vs, rest)) :
    ∃ used : Tokens, ts = used ++ rest ∧ Operand.ItemsDerive used.kinds vs := by
  induction fuel generalizing ts vs with
  | zero => cases h
  | succ fuel ih =>
    simp only [Operand.readMore] at h
    split at h
    · cases h
    · rename_i v mid hv
      obtain ⟨used, rfl, hd⟩ := derives_of_read hv
      split at h
      · rename_i hc
        split at h
        · cases h
        · rename_i hmore; cases h
          obtain ⟨p, hmid⟩ := eq_cons_of_next hc (by simp)
          obtain ⟨more, hskip, hds⟩ := ih hmore
          refine ⟨used ++ ⟨.comma, p⟩ :: more, ?_, ?_⟩
          · rw [hmid, hskip, List.append_assoc]
            rfl
          · simpa using .more hd hds
      · rename_i hb; cases h
        obtain ⟨p, hmid⟩ := eq_cons_of_next hb (by simp)
        refine ⟨used ++ [⟨.rightBracket, p⟩], ?_, ?_⟩
        · rw [List.append_assoc]
          exact congrArg (used ++ ·) hmid
        · simpa using .last hd
      · cases h

/-- What is read as a list is derivable from the tokens that it takes. -/
theorem Operand.listDerives_of_readList {ts rest : Tokens} {vs : List Operand}
    (h : Operand.readList ts = .ok (vs, rest)) :
    ∃ used : Tokens, ts = used ++ rest ∧ Operand.ListDerives used.kinds vs := by
  simp only [Operand.readList] at h
  split at h
  · rename_i hl
    obtain ⟨p, hts⟩ := eq_cons_of_next (beq_iff_eq.1 hl) (by simp)
    split at h
    · rename_i hr; cases h
      obtain ⟨q, hskip⟩ := eq_cons_of_next (beq_iff_eq.1 hr) (by simp)
      refine ⟨[⟨.leftBracket, p⟩, ⟨.rightBracket, q⟩], ?_, .none⟩
      rw [hts, hskip]
      rfl
    · obtain ⟨used, hskip, hd⟩ := itemsDerive_of_readMore h
      refine ⟨⟨.leftBracket, p⟩ :: used, ?_, .some hd⟩
      rw [hts, hskip]
      rfl
  · cases h

/-- A span is read as an operand is. -/
theorem Operand.read_of_readSpan {ts rest : Tokens} {v : Operand}
    (h : Operand.readSpan ts = .ok (v, rest)) :
    ∃ amount unit, Operand.read ts = .ok (.span amount unit, rest) ∧ v = .span amount unit := by
  simp only [Operand.readSpan] at h
  split at h
  · cases h
  · rename_i amount unit rest' hv; cases h
    exact ⟨amount, unit, hv, rfl⟩
  · cases h

/-! ## From derivations to reading -/

/-- What follows cannot belong to an operand: it opens no call, and it names no unit. -/
structure Tokens.EndsOperand (rest : Tokens) : Prop where
  not_call : rest.next ≠ .leftParen
  not_unit : nextUnit? rest = none

theorem Operand.readWord_bool {w : String} (b : Bool) {ts rest : Tokens}
    (hw : equalIgnoringCase w (if b then "true" else "false") = true) :
    Operand.readWord w ts rest = .ok (.bool b, rest) := by
  cases b with
  | true =>
    have hw : equalIgnoringCase w "true" = true := hw
    simp [Operand.readWord, not_reserved_of_true hw, hw]
  | false =>
    have hw : equalIgnoringCase w "false" = true := hw
    have ht : equalIgnoringCase w "true" = false := by rw [equalIgnoringCase_congr hw]; decide
    simp [Operand.readWord, not_reserved_of_false hw, hw, ht]

theorem Operand.readWord_null {w : String} {ts rest : Tokens}
    (hw : equalIgnoringCase w "null" = true) :
    Operand.readWord w ts rest = .ok (.null, rest) := by
  have ht : equalIgnoringCase w "true" = false := by rw [equalIgnoringCase_congr hw]; decide
  have hf : equalIgnoringCase w "false" = false := by rw [equalIgnoringCase_congr hw]; decide
  simp [Operand.readWord, not_reserved_of_null hw, hw, ht, hf]

/-- A name in front of a parenthesis is a call, or nothing. -/
theorem Operand.readWord_call {w : String} {ts rest : Tokens} (hw : IsName w)
    (hd : w.toList.contains '.' = false) (p q : Position) :
    Operand.readWord w ts (⟨.leftParen, p⟩ :: ⟨.rightParen, q⟩ :: rest) = .ok (.call w, rest) := by
  have hd : '.' ∉ w.toList := by simpa using hd
  simp [Operand.readWord, hw.not_reserved, hw.not_true, hw.not_false, hw.not_null, hd]

/-- A name that no parenthesis follows is a variable, unless it is called without. -/
theorem Operand.readWord_name {w : String} {ts rest : Tokens} (hw : IsName w)
    (hr : rest.next ≠ .leftParen) :
    Operand.readWord w ts rest =
      if w = "NOW" ∨ w = "TODAY" then .ok (.call w, rest) else .ok (.variable w, rest) := by
  simp [Operand.readWord, hw.not_reserved, hw.not_true, hw.not_false, hw.not_null, hr]

theorem Operand.read_of_derives {used : List Token} {v : Operand}
    (h : Operand.Derives used v) {ts rest : Tokens} (hts : ts.kinds = used)
    (hr : rest.EndsOperand) : Operand.read (ts ++ rest) = .ok (v, rest) := by
  cases h with
  | text s =>
    obtain ⟨p, rfl⟩ := kinds_eq_singleton hts
    rfl
  | number hd =>
    obtain ⟨p, rfl⟩ := kinds_eq_singleton hts
    simp [Operand.read, Operand.readNumber, hd, hr.not_unit]
  | span hd hu ha hf =>
    obtain ⟨p, us, rfl, hus⟩ := kinds_eq_cons hts
    obtain ⟨q, rfl⟩ := kinds_eq_singleton hus
    have hfilter : (some _).filter Text.fitsInt64 = some _ := Option.filter_some_pos hf
    simp [Operand.read, Operand.readNumber, nextUnit?, hd, hu, ha, hfilter]
  | instant hi =>
    obtain ⟨p, rfl⟩ := kinds_eq_singleton hts
    simp [Operand.read, hi]
  | truth hw =>
    obtain ⟨p, rfl⟩ := kinds_eq_singleton hts
    exact readWord_bool true hw
  | falsity hw =>
    obtain ⟨p, rfl⟩ := kinds_eq_singleton hts
    exact readWord_bool false hw
  | null hw =>
    obtain ⟨p, rfl⟩ := kinds_eq_singleton hts
    exact readWord_null hw
  | call hw hd =>
    obtain ⟨p, us, rfl, hus⟩ := kinds_eq_cons hts
    obtain ⟨q, vs, rfl, hvs⟩ := kinds_eq_cons hus
    obtain ⟨q', rfl⟩ := kinds_eq_singleton hvs
    exact readWord_call hw hd q q'
  | bareCall hw =>
    obtain ⟨p, rfl⟩ := kinds_eq_singleton hts
    exact (readWord_name hw.isName hr.not_call).trans (if_pos hw)
  | «variable» hw hb =>
    obtain ⟨p, rfl⟩ := kinds_eq_singleton hts
    exact (readWord_name hw hr.not_call).trans (if_neg hb)

theorem Tokens.endsOperand_comma (p : Position) (rest : Tokens) :
    Tokens.EndsOperand (⟨.comma, p⟩ :: rest) := ⟨by simp, rfl⟩

theorem Tokens.endsOperand_rightBracket (p : Position) (rest : Tokens) :
    Tokens.EndsOperand (⟨.rightBracket, p⟩ :: rest) := ⟨by simp, rfl⟩

/-- Every item takes a token, so the number of tokens is enough fuel. -/
theorem Operand.readMore_of_derives {used : List Token} {vs : List Operand}
    (h : Operand.ItemsDerive used vs) {ts rest : Tokens} (hts : ts.kinds = used) {fuel : Nat}
    (hfuel : used.length ≤ fuel) : Operand.readMore fuel (ts ++ rest) = .ok (vs, rest) := by
  induction h generalizing ts fuel with
  | last hv =>
    obtain ⟨us, bs, rfl, hus, hbs⟩ := kinds_eq_append hts
    obtain ⟨p, rfl⟩ := kinds_eq_singleton hbs
    cases fuel with
    | zero => simp at hfuel
    | succ fuel =>
      rw [List.append_assoc, List.singleton_append, Operand.readMore,
        read_of_derives hv hus (endsOperand_rightBracket p rest)]
      rfl
  | more hv _ ih =>
    obtain ⟨us, cs, rfl, hus, hcs⟩ := kinds_eq_append hts
    obtain ⟨p, bs, rfl, hbs⟩ := kinds_eq_cons hcs
    cases fuel with
    | zero => simp at hfuel
    | succ fuel =>
      simp only [List.length_append, List.length_cons] at hfuel
      rw [List.append_assoc, List.cons_append, Operand.readMore,
        read_of_derives hv hus (endsOperand_comma p (bs ++ rest))]
      simp only [next_cons, skip_cons]
      rw [ih hbs (by omega)]

/-- The tokens that an operand can begin with. -/
structure Token.StartsOperand (t : Token) : Prop where
  ne_leftParen : t ≠ .leftParen
  ne_rightBracket : t ≠ .rightBracket
  ne_endOfInput : t ≠ .endOfInput
  not_reserved : ∀ w, t = .word w → isReserved w = false

theorem Token.startsOperand_word {w : String} (h : isReserved w = false) :
    (Token.word w).StartsOperand :=
  ⟨by simp, by simp, by simp, by rintro w ⟨⟩; exact h⟩

theorem Operand.Derives.head {ts : List Token} {v : Operand} (h : Operand.Derives ts v) :
    ∃ t us, ts = t :: us ∧ t.StartsOperand := by
  cases h with
  | truth hw => exact ⟨_, _, rfl, Token.startsOperand_word (not_reserved_of_true hw)⟩
  | falsity hw => exact ⟨_, _, rfl, Token.startsOperand_word (not_reserved_of_false hw)⟩
  | null hw => exact ⟨_, _, rfl, Token.startsOperand_word (not_reserved_of_null hw)⟩
  | call hw => exact ⟨_, _, rfl, Token.startsOperand_word hw.not_reserved⟩
  | bareCall hw => exact ⟨_, _, rfl, Token.startsOperand_word hw.isName.not_reserved⟩
  | «variable» hw => exact ⟨_, _, rfl, Token.startsOperand_word hw.not_reserved⟩
  | _ => exact ⟨_, _, rfl, by simp, by simp, by simp, by rintro w ⟨⟩⟩

theorem Operand.ItemsDerive.head {ts : List Token} {vs : List Operand}
    (h : Operand.ItemsDerive ts vs) : ∃ t us, ts = t :: us ∧ t.StartsOperand := by
  cases h with
  | last hv =>
    obtain ⟨t, us, rfl, ht⟩ := hv.head
    exact ⟨t, us ++ [.rightBracket], rfl, ht⟩
  | more hv =>
    obtain ⟨t, us, rfl, ht⟩ := hv.head
    exact ⟨t, us ++ _, rfl, ht⟩

theorem Operand.readList_of_derives {used : List Token} {vs : List Operand}
    (h : Operand.ListDerives used vs) {ts rest : Tokens} (hts : ts.kinds = used) :
    Operand.readList (ts ++ rest) = .ok (vs, rest) := by
  cases h with
  | none =>
    obtain ⟨p, us, rfl, hus⟩ := kinds_eq_cons hts
    obtain ⟨q, rfl⟩ := kinds_eq_singleton hus
    rfl
  | some hi =>
    obtain ⟨t, ks, rfl, ht⟩ := hi.head
    obtain ⟨p, us, rfl, hus⟩ := kinds_eq_cons hts
    obtain ⟨q, vs, rfl, hvs⟩ := kinds_eq_cons hus
    have hne : (t == Token.rightBracket) = false := by simpa using ht.ne_rightBracket
    simp only [Operand.readList, List.cons_append, next_cons, skip_cons, beq_self_eq_true,
      ↓reduceIte, hne, Bool.false_eq_true]
    refine readMore_of_derives hi hus ?_
    rw [← hvs, List.length_cons, length_kinds, List.length_cons, List.length_cons,
      List.length_append]
    omega

theorem Operand.readSpan_of_derives {used : List Token} {amount : Int} {unit : SpanUnit}
    (h : Operand.Derives used (.span amount unit)) {ts rest : Tokens} (hts : ts.kinds = used)
    (hr : rest.EndsOperand) : Operand.readSpan (ts ++ rest) = .ok (.span amount unit, rest) := by
  rw [Operand.readSpan, read_of_derives h hts hr]

end Compliance
