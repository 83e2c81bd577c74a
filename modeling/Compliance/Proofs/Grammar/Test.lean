import Compliance.Proofs.Grammar.Connectives
import Compliance.Proofs.Grammar.Operand

/-!
# Compliance.Proofs.Grammar.Test

Reading the tests of conditions and consequences agrees with their grammar, and so does reading
whole conditions and consequences.

* `Condition.agrees`, `Consequence.agrees`                    — single tests.
* `Condition.derives_of_read`, `Condition.read_of_derives`     — whole conditions.
* `Consequence.derives_of_read`, `Consequence.read_of_derives` — whole consequences.
-/

namespace Compliance

open Tokens

/-! ## What may follow an operand -/

/-- A token that opens no call and names no unit ends an operand. -/
theorem Tokens.endsOperand_of_next {rest : Tokens} {t : Token} (h : rest.next = t)
    (ht : t ≠ .leftParen) (hu : ∀ w, t = .word w → SpanUnit.ofKeyword? w = none) :
    rest.EndsOperand := by
  refine ⟨by rw [h]; exact ht, ?_⟩
  simp only [nextUnit?, h]
  split
  · rename_i w; exact hu w rfl
  · rfl

theorem Tokens.EndsTest.endsOperand {rest : Tokens} (h : rest.EndsTest) : rest.EndsOperand := by
  rcases h with h | h | h | h | h <;>
    exact endsOperand_of_next h (by simp) (by rintro w ⟨⟩ <;> rfl)

/-- `LIKE` is the only word that compares. -/
theorem Comparison.eq_like_of_word {w : String} {op : Comparison}
    (h : Comparison.ofToken? (.word w) = some op) : w = "LIKE" := by
  by_cases hw : w = "LIKE"
  · exact hw
  · simp [Comparison.ofToken?, hw] at h

theorem Tokens.endsOperand_comparison {t : Token} {op : Comparison}
    (h : Comparison.ofToken? t = some op) (p : Position) (rest : Tokens) :
    Tokens.EndsOperand (⟨t, p⟩ :: rest) := by
  refine endsOperand_of_next rfl ?_ ?_
  · rintro rfl; cases h
  · rintro w rfl
    rw [Comparison.eq_like_of_word h]
    rfl

theorem Tokens.endsOperand_word {w : String} (h : SpanUnit.ofKeyword? w = none) (p : Position)
    (rest : Tokens) : Tokens.EndsOperand (⟨.word w, p⟩ :: rest) :=
  endsOperand_of_next rfl (by simp) (by rintro w ⟨⟩; exact h)

/-- Nothing that ends a test goes on with it. -/
theorem Tokens.EndsTest.not_comparison {rest : Tokens} (h : rest.EndsTest) :
    Comparison.ofToken? rest.next = none := by
  rcases h with h | h | h | h | h <;> rw [h] <;> rfl

theorem andThen_eq_ok {α β : Type} {read : Tokens → Except Diagnostic (β × Tokens)} {join : β → α}
    {ts rest : Tokens} {a : α} (h : andThen read join ts = .ok (a, rest)) :
    ∃ b, read ts = .ok (b, rest) ∧ a = join b := by
  simp only [andThen] at h
  split at h
  · cases h
  · rename_i b rest' hb; cases h
    exact ⟨b, hb, rfl⟩

theorem andThen_of_ok {α β : Type} {read : Tokens → Except Diagnostic (β × Tokens)} (join : β → α)
    {ts rest : Tokens} {b : β} (h : read ts = .ok (b, rest)) :
    andThen read join ts = .ok (join b, rest) := by
  simp only [andThen, h]

theorem Tokens.eq_of_expectWord {w : String} {ts rest : Tokens}
    (h : ts.expectWord w = .ok rest) : ∃ p, ts = ⟨.word w, p⟩ :: rest := by
  simp only [expectWord] at h
  split at h
  · rename_i hw; cases h
    exact eq_cons_of_startsWith hw
  · cases h

@[simp] theorem Tokens.expectWord_cons (w : String) (p : Position) (rest : Tokens) :
    Tokens.expectWord w (⟨.word w, p⟩ :: rest) = .ok rest := by
  simp [expectWord]

/-! ## The right-hand sides of tests -/

/-- What stands behind a token `t` that follows the tokens `l`, and leads up to `rest`. -/
theorem Tokens.append_of_next (l : Tokens) {ts us rest : Tokens} {t : Token} (h : ts.next = t)
    (ht : t ≠ .endOfInput) (hs : ts.skip = us ++ rest) :
    ∃ used : Tokens, l ++ ts = used ++ rest ∧ used.kinds = l.kinds ++ t :: us.kinds := by
  obtain ⟨p, hts⟩ := eq_cons_of_next h ht
  refine ⟨l ++ ⟨t, p⟩ :: us, ?_, by simp⟩
  rw [hts, hs, List.append_assoc]
  rfl

theorem Operand.derives_behind (l : Tokens) {ts rest : Tokens} {t : Token} {v : Operand}
    (ht : ts.next = t) (hne : t ≠ .endOfInput) (h : Operand.read ts.skip = .ok (v, rest)) :
    ∃ (used : Tokens) (r : List Token),
      l ++ ts = used ++ rest ∧ used.kinds = l.kinds ++ t :: r ∧ Operand.Derives r v := by
  obtain ⟨r, hskip, hr⟩ := Operand.derives_of_read h
  obtain ⟨used, hts, hused⟩ := append_of_next l ht hne hskip
  exact ⟨used, r.kinds, hts, hused, hr⟩

theorem Operand.listDerives_behind (l : Tokens) {ts rest : Tokens} {t : Token}
    {vs : List Operand} (ht : ts.next = t) (hne : t ≠ .endOfInput)
    (h : Operand.readList ts.skip = .ok (vs, rest)) :
    ∃ (used : Tokens) (m : List Token),
      l ++ ts = used ++ rest ∧ used.kinds = l.kinds ++ t :: m ∧ Operand.ListDerives m vs := by
  obtain ⟨m, hskip, hm⟩ := Operand.listDerives_of_readList h
  obtain ⟨used, hts, hused⟩ := append_of_next l ht hne hskip
  exact ⟨used, m.kinds, hts, hused, hm⟩

/-- The list of `NOT IN`, behind both words. -/
theorem Operand.listDerives_behind_notIn (l : Tokens) {ts rest : Tokens} {vs : List Operand}
    (hnot : ts.next = .word "NOT") (hin : ts.skip.startsWith "IN" = true)
    (h : Operand.readList ts.skip.skip = .ok (vs, rest)) :
    ∃ (used : Tokens) (m : List Token), l ++ ts = used ++ rest ∧
      used.kinds = l.kinds ++ .word "NOT" :: .word "IN" :: m ∧ Operand.ListDerives m vs := by
  obtain ⟨q, hskip⟩ := eq_cons_of_startsWith hin
  obtain ⟨m, hm, hd⟩ := Operand.listDerives_of_readList h
  have hbehind : ts.skip = (⟨.word "IN", q⟩ :: m) ++ rest := by rw [hskip, hm]; rfl
  obtain ⟨used, hts, hused⟩ := append_of_next l hnot (by simp) hbehind
  exact ⟨used, m.kinds, hts, hused, hd⟩

/-! ## Conditions -/

theorem Condition.testDerives_of_readTestBehind {left : Operand} {l ts rest : Tokens}
    {c : Condition} (hl : Operand.Derives l.kinds left)
    (h : Condition.readTestBehind left ts = .ok (c, rest)) :
    ∃ used : Tokens, l ++ ts = used ++ rest ∧ Condition.TestDerives used.kinds c := by
  simp only [Condition.readTestBehind] at h
  split at h
  · rename_i op hop
    obtain ⟨right, hright, rfl⟩ := andThen_eq_ok h
    have hne : ts.next ≠ .endOfInput := by
      intro hend
      rw [hend] at hop
      cases hop
    obtain ⟨used, r, hts, hused, hr⟩ := Operand.derives_behind l rfl hne hright
    exact ⟨used, hts, hused ▸ .comparison hl hop hr⟩
  · split at h
    · rename_i hop
      obtain ⟨values, hvalues, rfl⟩ := andThen_eq_ok h
      obtain ⟨used, m, hts, hused, hm⟩ := Operand.listDerives_behind l hop (by simp) hvalues
      exact ⟨used, hts, hused ▸ .membership hl hm⟩
    · rename_i hnot
      split at h
      · rename_i hin
        obtain ⟨values, hvalues, rfl⟩ := andThen_eq_ok h
        obtain ⟨used, m, hts, hused, hm⟩ := Operand.listDerives_behind_notIn l hnot hin hvalues
        exact ⟨used, hts, hused ▸ .nonMembership hl hm⟩
      · cases h
        exact ⟨l, rfl, .truthiness hl⟩
    · rename_i hop
      obtain ⟨pattern, hpattern, rfl⟩ := andThen_eq_ok h
      obtain ⟨used, r, hts, hused, hr⟩ := Operand.derives_behind l hop (by simp) hpattern
      exact ⟨used, hts, hused ▸ .textTest .contains hl hr⟩
    · rename_i hop
      obtain ⟨pattern, hpattern, rfl⟩ := andThen_eq_ok h
      obtain ⟨used, r, hts, hused, hr⟩ := Operand.derives_behind l hop (by simp) hpattern
      exact ⟨used, hts, hused ▸ .textTest .matching hl hr⟩
    · rename_i hop
      obtain ⟨reference, href, rfl⟩ := andThen_eq_ok h
      obtain ⟨used, r, hts, hused, hr⟩ := Operand.derives_behind l hop (by simp) href
      exact ⟨used, hts, hused ▸ .before hl hr⟩
    · rename_i hop
      obtain ⟨reference, href, rfl⟩ := andThen_eq_ok h
      obtain ⟨used, r, hts, hused, hr⟩ := Operand.derives_behind l hop (by simp) href
      exact ⟨used, hts, hused ▸ .after hl hr⟩
    · rename_i hop
      obtain ⟨reference, href, rfl⟩ := andThen_eq_ok h
      obtain ⟨amount, unit, hread, rfl⟩ := Operand.read_of_readSpan href
      obtain ⟨used, r, hts, hused, hr⟩ := Operand.derives_behind l hop (by simp) hread
      exact ⟨used, hts, hused ▸ .within hl hr⟩
    · rename_i hop
      split at h
      · cases h
      · rename_i mid hafter
        obtain ⟨reference, href, rfl⟩ := andThen_eq_ok h
        obtain ⟨amount, unit, hread, rfl⟩ := Operand.read_of_readSpan href
        obtain ⟨q, hskip⟩ := eq_of_expectWord hafter
        obtain ⟨r, hmid, hr⟩ := Operand.derives_of_read hread
        have hbehind : ts.skip = (⟨.word "AFTER", q⟩ :: r) ++ rest := by rw [hskip, hmid]; rfl
        obtain ⟨used, hts, hused⟩ := append_of_next l hop (by simp) hbehind
        exact ⟨used, hts, hused ▸ .expires hl hr⟩
    · cases h
      exact ⟨l, rfl, .truthiness hl⟩

theorem Condition.testDerives_of_readTest {ts rest : Tokens} {c : Condition}
    (h : Condition.readTest ts = .ok (c, rest)) :
    ∃ used : Tokens, ts = used ++ rest ∧ Condition.TestDerives used.kinds c := by
  simp only [Condition.readTest] at h
  split at h
  · cases h
  · rename_i left mid hleft
    obtain ⟨l, rfl, hl⟩ := Operand.derives_of_read hleft
    exact Condition.testDerives_of_readTestBehind hl h

/-- The first operand of a test is read up to the token that names the test. -/
theorem Condition.readTest_behind {l us rest : Tokens} {used : List Token} {t : Token}
    {p : Position} {left : Operand} (hl : Operand.Derives used left) (hus : l.kinds = used)
    (ht : Tokens.EndsOperand (⟨t, p⟩ :: (us ++ rest))) :
    Condition.readTest (l ++ ⟨t, p⟩ :: us ++ rest) =
      Condition.readTestBehind left (⟨t, p⟩ :: (us ++ rest)) := by
  rw [Condition.readTest, List.append_assoc, List.cons_append, Operand.read_of_derives hl hus ht]

theorem Condition.readTest_of_testDerives {used : List Token} {c : Condition}
    (h : Condition.TestDerives used c) {ts rest : Tokens} (hts : ts.kinds = used)
    (hend : rest.EndsTest) : Condition.readTest (ts ++ rest) = .ok (c, rest) := by
  cases h with
  | comparison hl ht hr =>
    obtain ⟨l, p, r, rfl, hl', hr'⟩ := kinds_eq_infix hts
    rw [readTest_behind hl hl' (endsOperand_comparison ht p _)]
    simp only [readTestBehind, next_cons, skip_cons, ht]
    exact andThen_of_ok _ (Operand.read_of_derives hr hr' hend.endsOperand)
  | membership hl hm =>
    obtain ⟨l, p, m, rfl, hl', hm'⟩ := kinds_eq_infix hts
    rw [readTest_behind hl hl' (endsOperand_word rfl p _)]
    exact andThen_of_ok _ (Operand.readList_of_derives hm hm')
  | nonMembership hl hm =>
    obtain ⟨l, p, ws, rfl, hl', hws⟩ := kinds_eq_infix hts
    obtain ⟨q, m, rfl, hm'⟩ := kinds_eq_cons hws
    rw [readTest_behind hl hl' (endsOperand_word rfl p _)]
    exact andThen_of_ok _ (Operand.readList_of_derives hm hm')
  | textTest op hl hr =>
    obtain ⟨l, p, r, rfl, hl', hr'⟩ := kinds_eq_infix hts
    rw [readTest_behind hl hl' (endsOperand_word (by cases op <;> rfl) p _)]
    cases op <;> exact andThen_of_ok _ (Operand.read_of_derives hr hr' hend.endsOperand)
  | before hl hr =>
    obtain ⟨l, p, r, rfl, hl', hr'⟩ := kinds_eq_infix hts
    rw [readTest_behind hl hl' (endsOperand_word rfl p _)]
    exact andThen_of_ok _ (Operand.read_of_derives hr hr' hend.endsOperand)
  | after hl hr =>
    obtain ⟨l, p, r, rfl, hl', hr'⟩ := kinds_eq_infix hts
    rw [readTest_behind hl hl' (endsOperand_word rfl p _)]
    exact andThen_of_ok _ (Operand.read_of_derives hr hr' hend.endsOperand)
  | within hl hr =>
    obtain ⟨l, p, r, rfl, hl', hr'⟩ := kinds_eq_infix hts
    rw [readTest_behind hl hl' (endsOperand_word rfl p _)]
    exact andThen_of_ok _ (Operand.readSpan_of_derives hr hr' hend.endsOperand)
  | expires hl hr =>
    obtain ⟨l, p, ws, rfl, hl', hws⟩ := kinds_eq_infix hts
    obtain ⟨q, r, rfl, hr'⟩ := kinds_eq_cons hws
    rw [readTest_behind hl hl' (endsOperand_word rfl p _)]
    exact andThen_of_ok _ (Operand.readSpan_of_derives hr hr' hend.endsOperand)
  | truthiness hl =>
    rw [readTest, Operand.read_of_derives hl hts hend.endsOperand]
    simp only [readTestBehind, hend.not_comparison]
    rcases hend with h | h | h | h | h <;> rw [h] <;> rfl

theorem Operand.Derives.starts_unary {l : List Token} {v : Operand} (hl : Operand.Derives l v)
    (r : List Token) :
    ∃ t us, l ++ r = t :: us ∧ t ≠ .word "NOT" ∧ t ≠ .leftParen ∧ t ≠ .endOfInput := by
  obtain ⟨t, us, rfl, ht⟩ := hl.head
  refine ⟨t, us ++ r, rfl, ?_, ht.ne_leftParen, ht.ne_endOfInput⟩
  rintro rfl
  exact absurd (ht.not_reserved _ rfl) (by decide)

theorem Condition.TestDerives.head {ts : List Token} {c : Condition}
    (h : Condition.TestDerives ts c) :
    ∃ t us, ts = t :: us ∧ t ≠ .word "NOT" ∧ t ≠ .leftParen ∧ t ≠ .endOfInput := by
  cases h with
  | truthiness hl => simpa using hl.starts_unary []
  | _ => apply Operand.Derives.starts_unary; assumption

theorem Condition.agrees : Condition.connectives.Agrees Condition.TestDerives where
  derives_of_readTest := Condition.testDerives_of_readTest
  readTest_of_derives h _ _ hts hend := Condition.readTest_of_testDerives h hts hend
  head := Condition.TestDerives.head

theorem Condition.derives_of_read {ts rest : Tokens} {c : Condition}
    (h : Condition.read ts = .ok (c, rest)) :
    ∃ used : Tokens, ts = used ++ rest ∧ Condition.Derives .disjunction used.kinds c :=
  Connectives.derives_of_read Condition.agrees h

theorem Condition.read_of_derives {used : List Token} {c : Condition}
    (h : Condition.Derives .disjunction used c) {ts rest : Tokens} (hts : ts.kinds = used)
    (hend : rest.EndsExpression) : Condition.read (ts ++ rest) = .ok (c, rest) :=
  Connectives.read_of_derives Condition.agrees h hts hend

/-! ## Consequences -/

theorem Consequence.testDerives_of_readRange {value : Operand} {l ts rest : Tokens}
    {c : Consequence} (hl : Operand.Derives l.kinds value) (hb : ts.startsWith "BETWEEN" = true)
    (h : Consequence.readRange value ts.skip = .ok (c, rest)) :
    ∃ used : Tokens, l ++ ts = used ++ rest ∧ Consequence.TestDerives used.kinds c := by
  simp only [Consequence.readRange] at h
  split at h
  · cases h
  · rename_i lower mid hlower
    obtain ⟨lo, hskip, hlo⟩ := Operand.derives_of_read hlower
    split at h
    · cases h
    · rename_i behind hand
      obtain ⟨upper, hupper, rfl⟩ := andThen_eq_ok h
      obtain ⟨hi, rfl, hhi⟩ := Operand.derives_of_read hupper
      obtain ⟨q, rfl⟩ := eq_of_expectWord hand
      have hbehind : ts.skip = (lo ++ ⟨.word "AND", q⟩ :: hi) ++ rest := by
        rw [hskip, List.append_assoc]
        rfl
      obtain ⟨used, hts, hused⟩ := append_of_next l (beq_iff_eq.1 hb) (by simp) hbehind
      refine ⟨used, hts, ?_⟩
      rw [hused, kinds_append]
      exact .range hl hlo hhi

theorem Consequence.testDerives_of_readTestBehind {left : Operand} {l ts rest : Tokens}
    {c : Consequence} (hl : Operand.Derives l.kinds left)
    (h : Consequence.readTestBehind left ts = .ok (c, rest)) :
    ∃ used : Tokens, l ++ ts = used ++ rest ∧ Consequence.TestDerives used.kinds c := by
  simp only [Consequence.readTestBehind] at h
  split at h
  · rename_i op hop
    obtain ⟨right, hright, rfl⟩ := andThen_eq_ok h
    have hne : ts.next ≠ .endOfInput := by
      intro hend
      rw [hend] at hop
      cases hop
    obtain ⟨used, r, hts, hused, hr⟩ := Operand.derives_behind l rfl hne hright
    exact ⟨used, hts, hused ▸ .comparison hl hop hr⟩
  · split at h
    · rename_i hin
      obtain ⟨values, hvalues, rfl⟩ := andThen_eq_ok h
      obtain ⟨used, m, hts, hused, hm⟩ :=
        Operand.listDerives_behind l (beq_iff_eq.1 hin) (by simp) hvalues
      exact ⟨used, hts, hused ▸ .membership hl hm⟩
    · split at h
      · rename_i hnot
        obtain ⟨hnot, hin⟩ := Bool.and_eq_true_iff.1 hnot
        obtain ⟨values, hvalues, rfl⟩ := andThen_eq_ok h
        obtain ⟨used, m, hts, hused, hm⟩ :=
          Operand.listDerives_behind_notIn l (beq_iff_eq.1 hnot) hin hvalues
        exact ⟨used, hts, hused ▸ .nonMembership hl hm⟩
      · split at h
        · rename_i hbetween
          exact Consequence.testDerives_of_readRange hl hbetween h
        · split at h
          · cases h
            exact ⟨l, rfl, .literal hl⟩
          · cases h
            exact ⟨l, rfl, .truthiness hl⟩
          · cases h

theorem Consequence.testDerives_of_readPresence {demand : Demand} {ts rest : Tokens}
    {c : Consequence} (h : Consequence.readPresence demand ts = .ok (c, rest)) :
    ∃ (used : Tokens) (path : String), ts = used ++ rest ∧
      c = .presence (.variable path) demand ∧ Operand.Derives used.kinds (.variable path) := by
  simp only [Consequence.readPresence] at h
  split at h
  · cases h
  · rename_i path rest' hv; cases h
    obtain ⟨used, hts, hd⟩ := Operand.derives_of_read hv
    exact ⟨used, path, hts, rfl, hd⟩
  · cases h

theorem Consequence.testDerives_of_readTest {ts rest : Tokens} {c : Consequence}
    (h : Consequence.readTest ts = .ok (c, rest)) :
    ∃ used : Tokens, ts = used ++ rest ∧ Consequence.TestDerives used.kinds c := by
  simp only [Consequence.readTest] at h
  split at h
  · rename_i hw
    obtain ⟨us, path, hskip, rfl, hd⟩ := Consequence.testDerives_of_readPresence h
    obtain ⟨used, hts, hused⟩ := append_of_next [] (beq_iff_eq.1 hw) (by simp) hskip
    exact ⟨used, hts, hused ▸ .required hd⟩
  · split at h
    · rename_i hw
      obtain ⟨us, path, hskip, rfl, hd⟩ := Consequence.testDerives_of_readPresence h
      obtain ⟨used, hts, hused⟩ := append_of_next [] (beq_iff_eq.1 hw) (by simp) hskip
      exact ⟨used, hts, hused ▸ .recommended hd⟩
    · split at h
      · cases h
      · rename_i left mid hleft
        obtain ⟨l, rfl, hl⟩ := Operand.derives_of_read hleft
        exact Consequence.testDerives_of_readTestBehind hl h

/-- No operand begins like a demand for presence. -/
theorem Consequence.readTest_of_operand {l rest : Tokens} {used : List Token} {left : Operand}
    (hl : Operand.Derives used left) (hus : l.kinds = used) (hend : rest.EndsOperand) :
    Consequence.readTest (l ++ rest) = Consequence.readTestBehind left rest := by
  have not_demand {w : String} (hw : isReserved w = true) : (l ++ rest).startsWith w = false := by
    obtain ⟨t, ks, rfl, ht⟩ := hl.head
    obtain ⟨p, us, rfl, -⟩ := kinds_eq_cons hus
    by_cases htw : t = .word w
    · rw [ht.not_reserved w htw] at hw
      cases hw
    · simpa [startsWith] using htw
  simp [Consequence.readTest, not_demand (w := "REQUIRE") (by decide),
    not_demand (w := "RECOMMEND") (by decide), Operand.read_of_derives hl hus hend]

/-- The first operand of a demand is read up to the token that names it. -/
theorem Consequence.readTest_behind {l us rest : Tokens} {used : List Token} {t : Token}
    {p : Position} {left : Operand} (hl : Operand.Derives used left) (hus : l.kinds = used)
    (ht : Tokens.EndsOperand (⟨t, p⟩ :: (us ++ rest))) :
    Consequence.readTest (l ++ ⟨t, p⟩ :: us ++ rest) =
      Consequence.readTestBehind left (⟨t, p⟩ :: (us ++ rest)) := by
  rw [List.append_assoc, List.cons_append, Consequence.readTest_of_operand hl hus ht]

theorem Consequence.readRange_of_derives {lo hi : List Token} {value lower upper : Operand}
    (hlo : Operand.Derives lo lower) (hhi : Operand.Derives hi upper) {ts rest : Tokens}
    (hts : ts.kinds = lo ++ .word "AND" :: hi) (hend : rest.EndsOperand) :
    Consequence.readRange value (ts ++ rest) = .ok (.range value lower upper, rest) := by
  obtain ⟨us, p, vs, rfl, hus, hvs⟩ := kinds_eq_infix hts
  rw [Consequence.readRange, List.append_assoc, List.cons_append,
    Operand.read_of_derives hlo hus (endsOperand_word rfl p _)]
  simp only [expectWord_cons]
  exact andThen_of_ok _ (Operand.read_of_derives hhi hvs hend)

theorem Tokens.EndsTest.not_startsWith {rest : Tokens} (h : rest.EndsTest) {w : String}
    (hw : w ∉ ["AND", "OR", "THEN"]) : rest.startsWith w = false := by
  simp only [List.mem_cons, List.not_mem_nil, or_false, not_or] at hw
  rcases h with h | h | h | h | h <;> simp [startsWith, h, Ne.symm hw.1, Ne.symm hw.2.1,
    Ne.symm hw.2.2]

theorem Consequence.readTest_of_testDerives {used : List Token} {c : Consequence}
    (h : Consequence.TestDerives used c) {ts rest : Tokens} (hts : ts.kinds = used)
    (hend : rest.EndsTest) : Consequence.readTest (ts ++ rest) = .ok (c, rest) := by
  cases h with
  | comparison hl ht hr =>
    obtain ⟨l, p, r, rfl, hl', hr'⟩ := kinds_eq_infix hts
    rw [readTest_behind hl hl' (endsOperand_comparison ht p _)]
    simp only [readTestBehind, next_cons, skip_cons, ht]
    exact andThen_of_ok _ (Operand.read_of_derives hr hr' hend.endsOperand)
  | membership hl hm =>
    obtain ⟨l, p, m, rfl, hl', hm'⟩ := kinds_eq_infix hts
    rw [readTest_behind hl hl' (endsOperand_word rfl p _)]
    exact andThen_of_ok _ (Operand.readList_of_derives hm hm')
  | nonMembership hl hm =>
    obtain ⟨l, p, ws, rfl, hl', hws⟩ := kinds_eq_infix hts
    obtain ⟨q, m, rfl, hm'⟩ := kinds_eq_cons hws
    rw [readTest_behind hl hl' (endsOperand_word rfl p _)]
    exact andThen_of_ok _ (Operand.readList_of_derives hm hm')
  | range hl hlo hhi =>
    obtain ⟨l, p, r, rfl, hl', hr'⟩ := kinds_eq_infix hts
    rw [readTest_behind hl hl' (endsOperand_word rfl p _)]
    exact Consequence.readRange_of_derives hlo hhi hr' hend.endsOperand
  | required hl =>
    obtain ⟨p, l, rfl, hl'⟩ := kinds_eq_cons hts
    simp [readTest, readPresence, Operand.read_of_derives hl hl' hend.endsOperand]
  | recommended hl =>
    obtain ⟨p, l, rfl, hl'⟩ := kinds_eq_cons hts
    simp [readTest, readPresence, Operand.read_of_derives hl hl' hend.endsOperand]
  | literal hl =>
    rw [readTest_of_operand hl hts hend.endsOperand]
    simp [readTestBehind, hend.not_comparison, hend.not_startsWith]
  | truthiness hl =>
    rw [readTest_of_operand hl hts hend.endsOperand]
    simp [readTestBehind, hend.not_comparison, hend.not_startsWith]

theorem Consequence.TestDerives.head {ts : List Token} {c : Consequence}
    (h : Consequence.TestDerives ts c) :
    ∃ t us, ts = t :: us ∧ t ≠ .word "NOT" ∧ t ≠ .leftParen ∧ t ≠ .endOfInput := by
  cases h with
  | required hl => exact ⟨_, _, rfl, by decide, by decide, by decide⟩
  | recommended hl => exact ⟨_, _, rfl, by decide, by decide, by decide⟩
  | literal hl => simpa using hl.starts_unary []
  | truthiness hl => simpa using hl.starts_unary []
  | _ => apply Operand.Derives.starts_unary; assumption

theorem Consequence.agrees : Consequence.connectives.Agrees Consequence.TestDerives where
  derives_of_readTest := Consequence.testDerives_of_readTest
  readTest_of_derives h _ _ hts hend := Consequence.readTest_of_testDerives h hts hend
  head := Consequence.TestDerives.head

theorem Consequence.derives_of_read {ts rest : Tokens} {c : Consequence}
    (h : Consequence.read ts = .ok (c, rest)) :
    ∃ used : Tokens, ts = used ++ rest ∧ Consequence.Derives .disjunction used.kinds c :=
  Connectives.derives_of_read Consequence.agrees h

theorem Consequence.read_of_derives {used : List Token} {c : Consequence}
    (h : Consequence.Derives .disjunction used c) {ts rest : Tokens} (hts : ts.kinds = used)
    (hend : rest.EndsExpression) : Consequence.read (ts ++ rest) = .ok (c, rest) :=
  Connectives.read_of_derives Consequence.agrees h hts hend

end Compliance
