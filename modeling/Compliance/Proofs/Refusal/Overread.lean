import Compliance.Proofs.Refusal
import Mathlib.Data.List.Basic

/-!
# Compliance.Proofs.Refusal.Overread

The places where a reader goes on although the text is wrong already. Behind `WITHIN` only a span
may stand, behind `REQUIRE` only a variable; but any operand is read there, and then refused.

* `NoReserved`  — tokens without reserved words; operands and lists have none.
* `IsGate`      — the tokens behind which only some operands may stand.
* `Overread`    — a token goes on with an operand behind such a gate.
* `overread_behind`, `overread_behind_separator` — only the tokens from the last reserved word on
  matter.
-/

namespace Compliance

open Tokens

/-! ## Reserved words -/

def NoReserved (ts : List Token) : Prop := ∀ w, .word w ∈ ts → isReserved w = false

@[simp] theorem noReserved_nil : NoReserved [] := nofun

@[simp] theorem noReserved_append (ts us : List Token) :
    NoReserved (ts ++ us) ↔ NoReserved ts ∧ NoReserved us := by
  simp only [NoReserved, List.mem_append]
  constructor
  · intro h
    exact ⟨fun w hw => h w (.inl hw), fun w hw => h w (.inr hw)⟩
  · rintro ⟨hts, hus⟩ w (hw | hw)
    · exact hts w hw
    · exact hus w hw

theorem noReserved_cons {t : Token} {ts : List Token} (h : ∀ w, t = .word w → isReserved w = false)
    (hts : NoReserved ts) : NoReserved (t :: ts) := by
  intro w hw
  rcases List.mem_cons.1 hw with rfl | hw
  · exact h w rfl
  · exact hts w hw

theorem noReserved_word {w : String} (h : isReserved w = false) : NoReserved [.word w] :=
  noReserved_cons (by rintro w ⟨⟩; exact h) noReserved_nil

theorem NoReserved.notMem {ts : List Token} (h : NoReserved ts) {w : String}
    (hw : isReserved w = true) : .word w ∉ ts := by
  intro hmem
  rw [h w hmem] at hw
  cases hw

theorem NoReserved.of_append_left {ts us : List Token} (h : NoReserved (ts ++ us)) :
    NoReserved ts :=
  ((noReserved_append ts us).1 h).1

theorem SpanUnit.not_reserved {w : String} {unit : SpanUnit}
    (h : SpanUnit.ofKeyword? w = some unit) : isReserved w = false := by
  have none : ∀ w ∈ reservedWords, SpanUnit.ofKeyword? w = none := by decide
  cases hr : isReserved w with
  | false => rfl
  | true => rw [none w (mem_reservedWords hr)] at h; cases h

theorem Verb.not_reserved {w : String} {verb : Verb} (h : Verb.ofKeyword? w = some verb) :
    isReserved w = false := by
  have none : ∀ w ∈ reservedWords, Verb.ofKeyword? w = none := by decide
  cases hr : isReserved w with
  | false => rfl
  | true => rw [none w (mem_reservedWords hr)] at h; cases h

theorem Operand.Derives.noReserved {ts : List Token} {v : Operand} (h : Operand.Derives ts v) :
    NoReserved ts := by
  cases h with
  | text s => exact noReserved_cons (by simp) noReserved_nil
  | number hd => exact noReserved_cons (by simp) noReserved_nil
  | span hd hu =>
    exact noReserved_cons (by simp) (noReserved_word (SpanUnit.not_reserved hu))
  | instant hi => exact noReserved_cons (by simp) noReserved_nil
  | truth hw => exact noReserved_word (not_reserved_of_true hw)
  | falsity hw => exact noReserved_word (not_reserved_of_false hw)
  | null hw => exact noReserved_word (not_reserved_of_null hw)
  | call hw hd =>
    refine noReserved_cons (by rintro w ⟨⟩; exact hw.not_reserved) ?_
    exact noReserved_cons (by simp) (noReserved_cons (by simp) noReserved_nil)
  | bareCall hw => exact noReserved_word hw.isName.not_reserved
  | «variable» hw hb => exact noReserved_word hw.not_reserved

theorem Operand.ItemsDerive.noReserved {ts : List Token} {vs : List Operand}
    (h : Operand.ItemsDerive ts vs) : NoReserved ts := by
  induction h with
  | last hv =>
    exact (noReserved_append _ _).2 ⟨hv.noReserved, noReserved_cons (by simp) noReserved_nil⟩
  | more hv _ ih => exact (noReserved_append _ _).2 ⟨hv.noReserved, noReserved_cons (by simp) ih⟩

theorem Operand.ListDerives.noReserved {ts : List Token} {vs : List Operand}
    (h : Operand.ListDerives ts vs) : NoReserved ts := by
  cases h with
  | none => exact noReserved_cons (by simp) (noReserved_cons (by simp) noReserved_nil)
  | some h => exact noReserved_cons (by simp) h.noReserved

/-- An operand is written with three tokens at most. -/
theorem Operand.Derives.length_le {ts : List Token} {v : Operand} (h : Operand.Derives ts v) :
    ts.length ≤ 3 := by
  cases h <;> simp

/-! ## Gates -/

/-- An operand can begin with `seen` and go on with `t`. -/
def Goes (seen : List Token) (t : Token) : Prop :=
  ∃ more v, Operand.Derives (seen ++ t :: more) v

theorem Goes.noReserved {seen : List Token} {t : Token} (h : Goes seen t) : NoReserved seen := by
  obtain ⟨more, v, hv⟩ := h
  exact hv.noReserved.of_append_left

/-- A closing parenthesis stands in calls only. -/
theorem Operand.Derives.eq_call {ts : List Token} {v : Operand} (h : Operand.Derives ts v)
    (hmem : .rightParen ∈ ts) : ∃ w, ts = [.word w, .leftParen, .rightParen] := by
  cases h with
  | call hw hd => exact ⟨_, rfl⟩
  | _ => simp at hmem

/-- Nothing in an operand follows a closing parenthesis. -/
theorem not_goes_rightParen (seen : List Token) (t : Token) : ¬ Goes (seen ++ [.rightParen]) t := by
  rintro ⟨more, v, hv⟩
  obtain ⟨w, hts⟩ := hv.eq_call (by simp)
  match seen with
  | [] => simp at hts
  | [a] => simp at hts
  | a :: b :: seen =>
    have hlen := congrArg List.length hts
    simp only [List.length_append, List.length_cons, List.length_nil] at hlen
    omega

theorem verb_of_startsAction {t : Token} {ts : List Token} (h : startsAction (t :: ts) = true) :
    ∃ w verb, t = .word w ∧ Verb.ofKeyword? w = some verb := by
  obtain ⟨w, _, _, hwords, hv⟩ := words_of_startsAction h
  obtain ⟨verb, hverb⟩ := Option.isSome_iff_exists.1 hv
  exact ⟨w, verb, (List.cons.inj hwords).1, hverb⟩

/-- The tokens behind which not every operand may stand: a span is due behind `WITHIN` and
`EXPIRES AFTER`, a variable behind `REQUIRE`, `RECOMMEND` and the verb of an action. The second
argument is what follows; a verb counts in front of another word only. -/
inductive IsGate : List Token → List Token → Prop where
  | within (ts : List Token) : IsGate [.word "WITHIN"] ts
  | expires (ts : List Token) : IsGate [.word "EXPIRES", .word "AFTER"] ts
  | required (ts : List Token) : IsGate [.word "REQUIRE"] ts
  | recommended (ts : List Token) : IsGate [.word "RECOMMEND"] ts
  | verb {w : String} {ts : List Token} (h : startsAction (.word w :: ts) = true) :
      IsGate [.word "THEN", .word "MUST", .word w] ts

/-- Behind the tokens `pre`, the token `t` goes on with an operand behind a gate. -/
def Overread (pre : List Token) (t : Token) : Prop :=
  ∃ front gate seen, pre = front ++ (gate ++ seen) ∧ IsGate gate (seen ++ [t]) ∧ Goes seen t

theorem Overread.ne_not {pre : List Token} {t : Token} (h : Overread pre t) : t ≠ .word "NOT" := by
  obtain ⟨front, gate, seen, -, -, more, v, hv⟩ := h
  rintro rfl
  exact hv.noReserved.notMem (by decide : isReserved "NOT" = true) (by simp)

/-- The words that a gate begins with. -/
def gateWords : List String := ["WITHIN", "EXPIRES", "REQUIRE", "RECOMMEND", "THEN"]

theorem IsGate.head {gate ts : List Token} (h : IsGate gate ts) :
    ∃ w us, gate = .word w :: us ∧ w ∈ gateWords := by
  cases h <;> exact ⟨_, _, rfl, by decide⟩

theorem IsGate.last {gate ts : List Token} (h : IsGate gate ts) :
    ∃ w us, gate = us ++ [.word w] := by
  cases h
  · exact ⟨_, [], rfl⟩
  · exact ⟨_, [_], rfl⟩
  · exact ⟨_, [], rfl⟩
  · exact ⟨_, [], rfl⟩
  · exact ⟨_, [_, _], rfl⟩

theorem IsGate.then_notMem_tail {gate ts : List Token} (h : IsGate gate ts) :
    ∃ g us, gate = g :: us ∧ Token.word "THEN" ∉ us := by
  cases h with
  | @verb w ts hs =>
    obtain ⟨_, verb, ⟨⟩, hv⟩ := verb_of_startsAction hs
    refine ⟨_, _, rfl, ?_⟩
    have hw : "THEN" ≠ w := by
      rintro rfl
      cases hv
    simpa using hw
  | _ => exact ⟨_, _, rfl, by decide⟩

theorem isReserved_of_gateWords {w : String} (h : w ∈ gateWords) : isReserved w = true := by
  have all : ∀ w ∈ gateWords, isReserved w = true := by decide
  exact all w h

/-- Two ways to cut the same tokens: one part lies within the other. -/
theorem eq_append_of_append_eq {front s l r : List Token} {k : Token}
    (h : front ++ s = l ++ k :: r) :
    (∃ front', r = front' ++ s) ∨ ∃ l₁ l₂, l = l₁ ++ l₂ ∧ s = l₂ ++ k :: r := by
  rcases List.append_eq_append_iff.1 h with ⟨l₂, rfl, rfl⟩ | ⟨c, rfl, hc⟩
  · exact .inr ⟨front, l₂, rfl, rfl⟩
  · cases c with
    | nil => exact .inr ⟨l, [], by simp, by simpa using hc.symm⟩
    | cons t c =>
      rw [List.cons_append] at hc
      obtain ⟨rfl, rfl⟩ := List.cons.inj hc
      exact .inl ⟨c, rfl⟩

theorem Overread.append_left {pre : List Token} {t : Token} (h : Overread pre t) (l : List Token) :
    Overread (l ++ pre) t := by
  obtain ⟨front, gate, seen, rfl, hgate, hgoes⟩ := h
  exact ⟨l ++ front, gate, seen, by simp, hgate, hgoes⟩

/-- Behind tokens without reserved words and one more token `k`, a gate begins with `k` or behind
it. -/
theorem overread_behind {l r : List Token} {k t : Token} (hl : NoReserved l) :
    Overread (l ++ k :: r) t ↔
      (∃ gate seen, k :: r = gate ++ seen ∧ IsGate gate (seen ++ [t]) ∧ Goes seen t) ∨
        Overread r t := by
  constructor
  · rintro ⟨front, gate, seen, hpre, hgate, hgoes⟩
    rcases eq_append_of_append_eq hpre.symm with ⟨front', rfl⟩ | ⟨l₁, l₂, rfl, hs⟩
    · exact .inr ⟨front', gate, seen, rfl, hgate, hgoes⟩
    · cases l₂ with
      | nil => exact .inl ⟨gate, seen, hs.symm, hgate, hgoes⟩
      | cons u l₂ =>
        -- a gate begins with a reserved word, and `l` has none
        obtain ⟨w, us, rfl, hw⟩ := hgate.head
        obtain ⟨rfl, -⟩ := List.cons.inj hs
        exact absurd (by simp) (hl.notMem (isReserved_of_gateWords hw))
  · rintro (⟨gate, seen, hk, hgate, hgoes⟩ | h)
    · exact ⟨l, gate, seen, by rw [hk], hgate, hgoes⟩
    · simpa using (h.append_left [k]).append_left l

/-- A token with which no gate begins takes no part in one. -/
theorem overread_behind_plain {l r : List Token} {k t : Token} (hl : NoReserved l)
    (hk : ∀ w ∈ gateWords, k ≠ .word w) : Overread (l ++ k :: r) t ↔ Overread r t := by
  rw [overread_behind hl, or_iff_right]
  rintro ⟨gate, seen, hr, hgate, -⟩
  obtain ⟨w, us, rfl, hw⟩ := hgate.head
  obtain ⟨rfl, -⟩ := List.cons.inj hr
  exact hk w hw rfl

theorem not_overread_nil (t : Token) : ¬ Overread [] t := by
  rintro ⟨front, gate, seen, hpre, hgate, -⟩
  obtain ⟨w, us, rfl, -⟩ := hgate.head
  simp at hpre

theorem NoReserved.not_overread {ts : List Token} (h : NoReserved ts) (t : Token) :
    ¬ Overread ts t := by
  rintro ⟨front, gate, seen, rfl, hgate, -⟩
  obtain ⟨w, us, rfl, hw⟩ := hgate.head
  exact absurd (by simp) (h.notMem (isReserved_of_gateWords hw))

/-- A single word that begins a gate, with an operand behind it. -/
theorem overread_behind_gate {l r : List Token} {w : String} {t : Token} (hl : NoReserved l)
    (hw : w ∈ ["WITHIN", "REQUIRE", "RECOMMEND"]) :
    Overread (l ++ .word w :: r) t ↔ Goes r t ∨ Overread r t := by
  rw [overread_behind hl]
  refine or_congr ⟨?_, ?_⟩ Iff.rfl
  · rintro ⟨gate, seen, hr, hgate, hgoes⟩
    generalize seen ++ [t] = ts at hgate
    cases hgate <;> simp_all
  · intro hgoes
    refine ⟨[.word w], r, rfl, ?_, hgoes⟩
    simp only [List.mem_cons, List.not_mem_nil, or_false] at hw
    rcases hw with rfl | rfl | rfl
    · exact .within _
    · exact .required _
    · exact .recommended _

theorem overread_behind_expires {l r : List Token} {t : Token} (hl : NoReserved l) :
    Overread (l ++ .word "EXPIRES" :: .word "AFTER" :: r) t ↔ Goes r t ∨ Overread r t := by
  have hafter : Overread (.word "AFTER" :: r) t ↔ Overread r t :=
    overread_behind_plain noReserved_nil (by decide)
  rw [overread_behind hl, hafter]
  refine or_congr ⟨?_, ?_⟩ Iff.rfl
  · rintro ⟨gate, seen, hr, hgate, hgoes⟩
    generalize seen ++ [t] = ts at hgate
    cases hgate <;> simp_all
  · intro hgoes
    exact ⟨_, r, rfl, .expires _, hgoes⟩

/-- `EXPIRES` alone is no gate yet. -/
theorem not_overread_expires {l : List Token} {t : Token} (hl : NoReserved l) :
    ¬ Overread (l ++ [.word "EXPIRES"]) t := by
  rw [overread_behind hl]
  rintro (⟨gate, seen, hk, hgate, -⟩ | h)
  · generalize seen ++ [t] = ts at hgate
    cases hgate <;> simp at hk
  · exact not_overread_nil t h

/-! ## Separators -/

/-- The words that stand neither in a gate nor in an operand. -/
def separators : List String := ["AND", "OR", "NOT"]

theorem IsGate.notMem_separators {gate ts : List Token} (h : IsGate gate ts) {w : String}
    (hw : w ∈ separators) : .word w ∉ gate := by
  have none : ∀ w ∈ separators, Verb.ofKeyword? w = none ∧
      w ∉ ["WITHIN", "EXPIRES", "AFTER", "REQUIRE", "RECOMMEND", "THEN", "MUST"] := by decide
  obtain ⟨hverb, hwords⟩ := none w hw
  simp only [List.mem_cons, List.not_mem_nil, or_false, not_or] at hwords
  cases h with
  | @verb v ts hs =>
    obtain ⟨_, verb, ⟨⟩, hv⟩ := verb_of_startsAction hs
    have hne : w ≠ v := by
      rintro rfl
      rw [hv] at hverb
      cases hverb
    simp_all
  | _ => simp_all

/-- Whatever stands in front of a separator, no gate reaches across it. -/
theorem overread_behind_separator {l r : List Token} {w : String} {t : Token}
    (hw : w ∈ separators) : Overread (l ++ .word w :: r) t ↔ Overread r t := by
  constructor
  · rintro ⟨front, gate, seen, hpre, hgate, hgoes⟩
    rcases eq_append_of_append_eq hpre.symm with ⟨front', rfl⟩ | ⟨l₁, l₂, rfl, hs⟩
    · exact ⟨front', gate, seen, rfl, hgate, hgoes⟩
    · have hreserved : ∀ w ∈ separators, isReserved w = true := by decide
      have hmem : .word w ∈ gate ++ seen := by rw [hs]; simp
      rcases List.mem_append.1 hmem with hmem | hmem
      · exact absurd hmem (hgate.notMem_separators hw)
      · exact absurd hmem (hgoes.noReserved.notMem (hreserved w hw))
  · intro h
    simpa using (h.append_left [.word w]).append_left l

/-- A gate that begins in front of `THEN` ends there too. -/
theorem overread_behind_then {l r : List Token} {t : Token} :
    Overread (l ++ .word "THEN" :: r) t ↔ Overread (.word "THEN" :: r) t := by
  constructor
  · rintro ⟨front, gate, seen, hpre, hgate, hgoes⟩
    rcases eq_append_of_append_eq hpre.symm with ⟨front', rfl⟩ | ⟨l₁, l₂, rfl, hs⟩
    · exact ⟨.word "THEN" :: front', gate, seen, rfl, hgate, hgoes⟩
    · cases l₂ with
      | nil => exact ⟨[], gate, seen, hs.symm, hgate, hgoes⟩
      | cons u l₂ =>
        obtain ⟨g, us, rfl, hus⟩ := hgate.then_notMem_tail
        obtain ⟨-, htail⟩ := List.cons.inj hs
        have hmem : Token.word "THEN" ∈ us ++ seen := by
          rw [show us ++ seen = l₂ ++ .word "THEN" :: r from htail]
          simp
        rcases List.mem_append.1 hmem with hmem | hmem
        · exact absurd hmem hus
        · exact absurd hmem (hgoes.noReserved.notMem (by decide))
  · intro h
    exact h.append_left l

/-- Behind `THEN MUST`, a verb in front of another word is a gate. -/
theorem overread_behind_must {r : List Token} {t : Token} :
    Overread (.word "THEN" :: .word "MUST" :: r) t ↔
      (∃ w seen, r = .word w :: seen ∧ startsAction (r ++ [t]) = true ∧ Goes seen t) ∨
        Overread r t := by
  have hmust : Overread (.word "MUST" :: r) t ↔ Overread r t :=
    overread_behind_plain noReserved_nil (by decide)
  rw [← List.nil_append (Token.word "THEN" :: _), overread_behind noReserved_nil, hmust]
  refine or_congr ⟨?_, ?_⟩ Iff.rfl
  · rintro ⟨gate, seen, hr, hgate, hgoes⟩
    generalize hts : seen ++ [t] = ts at hgate
    cases hgate with
    | @verb w ts hs =>
      obtain rfl : r = .word w :: seen := by simpa using hr
      exact ⟨w, seen, rfl, by rwa [List.cons_append, hts], hgoes⟩
    | _ => simp at hr
  · rintro ⟨w, seen, rfl, hs, hgoes⟩
    exact ⟨_, seen, rfl, .verb hs, hgoes⟩

theorem not_overread_then (t : Token) : ¬ Overread [.word "THEN"] t := by
  rw [← List.nil_append [_], overread_behind noReserved_nil]
  rintro (⟨gate, seen, hk, hgate, -⟩ | h)
  · cases hgate <;> simp at hk
  · exact not_overread_nil t h

theorem not_overread_must (t : Token) : ¬ Overread [.word "THEN", .word "MUST"] t := by
  rw [overread_behind_must]
  rintro (⟨w, seen, hr, -⟩ | h)
  · cases hr
  · exact not_overread_nil t h

/-- No gate reaches up to a closing parenthesis. -/
theorem not_overread_rightParen (l : List Token) (t : Token) :
    ¬ Overread (l ++ [.rightParen]) t := by
  rintro ⟨front, gate, seen, hpre, hgate, hgoes⟩
  rcases List.eq_nil_or_concat' seen with rfl | ⟨seen, u, rfl⟩
  · obtain ⟨w, us, rfl⟩ := hgate.last
    rw [List.append_nil, ← List.append_assoc] at hpre
    obtain ⟨-, hlast⟩ := List.append_inj' hpre rfl
    cases hlast
  · rw [← List.append_assoc, ← List.append_assoc] at hpre
    obtain ⟨-, hlast⟩ := List.append_inj' hpre rfl
    cases hlast
    exact not_goes_rightParen seen t hgoes

end Compliance
