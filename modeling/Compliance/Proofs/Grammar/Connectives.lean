import Compliance.Proofs.Grammar

/-!
# Compliance.Proofs.Grammar.Connectives

Reading expressions agrees with their grammar, whatever the tests are.

* `Connectives.Agrees`           — what is asked of the reader of tests.
* `Connectives.derives_of_read`  — what is read is derivable from the tokens it takes.
* `Connectives.read_of_derives`  — what is derivable is read, in front of tokens that end it.
-/

namespace Compliance

open Tokens

/-- What may follow a test: the end, a closing parenthesis, a connective or `THEN`. -/
def Tokens.EndsTest (rest : Tokens) : Prop :=
  rest.next = .endOfInput ∨ rest.next = .rightParen ∨ rest.next = .word "AND" ∨
    rest.next = .word "OR" ∨ rest.next = .word "THEN"

/-- What may follow a whole expression: no connective. -/
def Tokens.EndsExpression (rest : Tokens) : Prop :=
  rest.next = .endOfInput ∨ rest.next = .rightParen ∨ rest.next = .word "THEN"

theorem Tokens.EndsExpression.endsTest {rest : Tokens} (h : rest.EndsExpression) :
    rest.EndsTest := by
  rcases h with h | h | h
  · exact .inl h
  · exact .inr (.inl h)
  · exact .inr (.inr (.inr (.inr h)))

theorem Tokens.EndsExpression.not_startsWith {rest : Tokens} (h : rest.EndsExpression)
    (op : Connective) : rest.startsWith op.keyword = false := by
  rcases h with h | h | h <;> cases op <;> rw [startsWith, h] <;> decide

namespace Connectives

variable {α : Type} {k : Connectives α} {Test : List Token → α → Prop}

/-- The reader of tests agrees with what derives tests. No test begins like a negation or an
expression in parentheses, nor with the end of input. -/
structure Agrees (k : Connectives α) (Test : List Token → α → Prop) : Prop where
  derives_of_readTest : ∀ {ts rest : Tokens} {a : α}, k.readTest ts = .ok (a, rest) →
    ∃ used : Tokens, ts = used ++ rest ∧ Test used.kinds a
  readTest_of_derives : ∀ {used : List Token} {a : α}, Test used a →
    ∀ {ts rest : Tokens}, ts.kinds = used → rest.EndsTest →
      k.readTest (ts ++ rest) = .ok (a, rest)
  head : ∀ {used : List Token} {a : α}, Test used a →
    ∃ t us, used = t :: us ∧ t ≠ .word "NOT" ∧ t ≠ .leftParen ∧ t ≠ .endOfInput

/-! ## From reading to derivations -/

/-- Items with a connective between them are what a relation `Chain` says that is closed under
joining another item. -/
theorem derives_of_readMore {op : Connective} {item : Tokens → Except Diagnostic (α × Tokens)}
    {Chain Item : List Token → α → Prop}
    (hitem : ∀ {ts rest : Tokens} {b : α}, item ts = .ok (b, rest) →
      ∃ used : Tokens, ts = used ++ rest ∧ Item used.kinds b)
    (hjoin : ∀ {ts us : List Token} {a b : α}, Chain ts a → Item us b →
      Chain (ts ++ .word op.keyword :: us) (k.logical a op b))
    {fuel : Nat} {used : List Token} {left a : α} {ts rest : Tokens} (hleft : Chain used left)
    (h : k.readMore op item fuel left ts = .ok (a, rest)) :
    ∃ more : Tokens, ts = more ++ rest ∧ Chain (used ++ more.kinds) a := by
  induction fuel generalizing used left ts with
  | zero =>
    cases h
    exact ⟨[], rfl, by simpa using hleft⟩
  | succ fuel ih =>
    simp only [readMore] at h
    split at h
    · rename_i hop
      split at h
      · cases h
      · rename_i right mid hright
        obtain ⟨p, hts⟩ := eq_cons_of_startsWith hop
        obtain ⟨us, hskip, hus⟩ := hitem hright
        obtain ⟨more, rfl, hmore⟩ := ih (hjoin hleft hus) h
        refine ⟨⟨.word op.keyword, p⟩ :: (us ++ more), ?_, ?_⟩
        · rw [hts, hskip, List.cons_append, List.append_assoc]
        · simpa using hmore
    · cases h
      exact ⟨[], rfl, by simpa using hleft⟩

theorem derives_of_readChain {op : Connective} {item : Tokens → Except Diagnostic (α × Tokens)}
    {Chain Item : List Token → α → Prop}
    (hitem : ∀ {ts rest : Tokens} {b : α}, item ts = .ok (b, rest) →
      ∃ used : Tokens, ts = used ++ rest ∧ Item used.kinds b)
    (hone : ∀ {ts : List Token} {a : α}, Item ts a → Chain ts a)
    (hjoin : ∀ {ts us : List Token} {a b : α}, Chain ts a → Item us b →
      Chain (ts ++ .word op.keyword :: us) (k.logical a op b))
    {a : α} {ts rest : Tokens} (h : k.readChain op item ts = .ok (a, rest)) :
    ∃ used : Tokens, ts = used ++ rest ∧ Chain used.kinds a := by
  simp only [readChain] at h
  split at h
  · cases h
  · rename_i left mid hleft
    obtain ⟨us, rfl, hus⟩ := hitem hleft
    obtain ⟨more, rfl, hmore⟩ := derives_of_readMore hitem hjoin (hone hus) h
    exact ⟨us ++ more, (List.append_assoc ..).symm, by simpa using hmore⟩

theorem derives_of_readDisjunction {unary : Tokens → Except Diagnostic (α × Tokens)}
    (hunary : ∀ {ts rest : Tokens} {b : α}, unary ts = .ok (b, rest) →
      ∃ used : Tokens, ts = used ++ rest ∧ k.Derives Test .unary used.kinds b)
    {a : α} {ts rest : Tokens} (h : k.readDisjunction unary ts = .ok (a, rest)) :
    ∃ used : Tokens, ts = used ++ rest ∧ k.Derives Test .disjunction used.kinds a :=
  derives_of_readChain (derives_of_readChain hunary .conjunct .and) .disjunct .or h

theorem derives_of_readUnary (hk : k.Agrees Test) {depth : Nat} {a : α} {ts rest : Tokens}
    (h : k.readUnary depth ts = .ok (a, rest)) :
    ∃ used : Tokens, ts = used ++ rest ∧ k.Derives Test .unary used.kinds a := by
  have ofTest {ts rest : Tokens} {a : α} (h : k.readTest ts = .ok (a, rest)) :
      ∃ used : Tokens, ts = used ++ rest ∧ k.Derives Test .unary used.kinds a := by
    obtain ⟨used, hts, ht⟩ := hk.derives_of_readTest h
    exact ⟨used, hts, .test ht⟩
  induction depth generalizing ts rest a with
  | zero => exact ofTest h
  | succ depth ih =>
    simp only [readUnary] at h
    split at h
    · rename_i hnot
      split at h
      · cases h
      · rename_i inner mid hinner; cases h
        obtain ⟨p, hts⟩ := eq_cons_of_startsWith hnot
        obtain ⟨used, hskip, hd⟩ := ih hinner
        exact ⟨⟨.word "NOT", p⟩ :: used, by rw [hts, hskip]; rfl, .negation hd⟩
    · split at h
      · rename_i hparen
        split at h
        · cases h
        · rename_i inner mid hinner
          split at h
          · rename_i hclose; cases h
            obtain ⟨p, hts⟩ := eq_cons_of_next (beq_iff_eq.1 hparen) (by simp)
            obtain ⟨used, hskip, hd⟩ := derives_of_readDisjunction ih hinner
            obtain ⟨q, hmid⟩ := eq_cons_of_next (beq_iff_eq.1 hclose) (by simp)
            refine ⟨⟨.leftParen, p⟩ :: (used ++ [⟨.rightParen, q⟩]), ?_, ?_⟩
            · rw [hts, hskip, List.cons_append, List.append_assoc]
              exact congrArg (fun rest => _ :: (used ++ rest)) hmid
            · simpa using .parens hd
          · cases h
      · exact ofTest h

/-- What is read as an expression is derivable from the tokens that it takes. -/
theorem derives_of_read (hk : k.Agrees Test) {a : α} {ts rest : Tokens}
    (h : k.read ts = .ok (a, rest)) :
    ∃ used : Tokens, ts = used ++ rest ∧ k.Derives Test .disjunction used.kinds a :=
  derives_of_readDisjunction (derives_of_readUnary hk) h

/-! ## From derivations to reading -/

theorem readMore_of_not_startsWith {op : Connective}
    {item : Tokens → Except Diagnostic (α × Tokens)} {fuel : Nat} {a : α} {rest : Tokens}
    (h : rest.startsWith op.keyword = false) :
    k.readMore op item fuel a rest = .ok (a, rest) := by
  cases fuel with
  | zero => rfl
  | succ fuel => simp [readMore, h]

/-- One more item is read behind what has been read, with enough fuel left. -/
theorem readMore_item (k : Connectives α) (op : Connective) (p : Position)
    {item : Tokens → Except Diagnostic (α × Tokens)} {fuel : Nat} {a b : α} {us rest : Tokens}
    (hitem : item (us ++ rest) = .ok (b, rest)) (hfuel : us.length + rest.length < fuel) :
    ∃ left, List.length rest ≤ left ∧
      k.readMore op item fuel a (⟨.word op.keyword, p⟩ :: (us ++ rest)) =
        k.readMore op item left (k.logical a op b) rest := by
  cases fuel with
  | zero => omega
  | succ fuel =>
    refine ⟨fuel, by omega, ?_⟩
    simp [readMore, hitem]

/-- What reading a derivable expression does at each level. A chain is read as far as it goes
already, so the levels of the connectives speak of what is still to be done behind it. -/
def ReadsAt (k : Connectives α) (depth : Nat) (ts : Tokens) (a : α) (rest : Tokens) :
    Level → Prop
  | .unary => k.readUnary depth (ts ++ rest) = .ok (a, rest)
  | .conjunction => ∃ fuel, List.length rest ≤ fuel ∧
      k.readChain .and (k.readUnary depth) (ts ++ rest) =
        k.readMore .and (k.readUnary depth) fuel a rest
  | .disjunction => rest.startsWith Connective.and.keyword = false →
    ∃ fuel, List.length rest ≤ fuel ∧
      k.readDisjunction (k.readUnary depth) (ts ++ rest) =
        k.readMore .or (k.readChain .and (k.readUnary depth)) fuel a rest

theorem readsAt_of_derives (hk : k.Agrees Test) {level : Level} {used : List Token} {a : α}
    (h : k.Derives Test level used a) {depth : Nat} (hdepth : used.length ≤ depth)
    {ts rest : Tokens} (hts : ts.kinds = used) (hr : rest.EndsTest) :
    k.ReadsAt depth ts a rest level := by
  induction h generalizing depth ts rest with
  | @test used a ht =>
    obtain ⟨t, us, rfl, hnot, hparen, -⟩ := hk.head ht
    have hread := hk.readTest_of_derives ht hts hr
    obtain ⟨p, vs, rfl, hvs⟩ := kinds_eq_cons hts
    cases depth with
    | zero => exact hread
    | succ depth => simpa [ReadsAt, readUnary, hnot, hparen] using hread
  | negation _ ih =>
    obtain ⟨p, us, rfl, hus⟩ := kinds_eq_cons hts
    cases depth with
    | zero => simp at hdepth
    | succ depth =>
      have hinner : k.readUnary depth (us ++ rest) = _ := ih (by simpa using hdepth) hus hr
      simp [ReadsAt, readUnary, hinner]
  | parens _ ih =>
    obtain ⟨p, us, rfl, hus⟩ := kinds_eq_cons hts
    obtain ⟨vs, ws, rfl, hvs, hws⟩ := kinds_eq_append hus
    obtain ⟨q, rfl⟩ := kinds_eq_singleton hws
    cases depth with
    | zero => simp at hdepth
    | succ depth =>
      have hclose : Tokens.EndsExpression (⟨.rightParen, q⟩ :: rest) := .inr (.inl rfl)
      simp only [List.length_cons, List.length_append] at hdepth
      have hlen := Nat.le_trans (Nat.le_succ _) (Nat.le_of_succ_le_succ hdepth)
      obtain ⟨fuel, -, hinner⟩ :=
        ih hlen hvs hclose.endsTest (hclose.not_startsWith .and)
      rw [readMore_of_not_startsWith (hclose.not_startsWith .or)] at hinner
      simp [ReadsAt, readUnary, hinner]
  | conjunct _ ih =>
    have hitem : k.readUnary depth (ts ++ rest) = _ := ih hdepth hts hr
    exact ⟨rest.length, Nat.le_refl _, by simp [readChain, hitem]⟩
  | @and left right _ _ _ _ iha ihb =>
    obtain ⟨us, vs, rfl, hus, hvs⟩ := kinds_eq_append hts
    obtain ⟨p, ws, rfl, hws⟩ := kinds_eq_cons hvs
    simp only [List.length_append, List.length_cons] at hdepth
    have hleft : left.length ≤ depth := by omega
    have hright : right.length ≤ depth := by omega
    have hand : Tokens.EndsTest (⟨.word "AND", p⟩ :: (ws ++ rest)) := .inr (.inr (.inl rfl))
    obtain ⟨fuel, hfuel, hleft⟩ := iha hleft hus hand
    have hitem : k.readUnary depth (ws ++ rest) = _ := ihb hright hws hr
    obtain ⟨left, hlen, hmore⟩ :=
      k.readMore_item .and p hitem (by simpa [Nat.succ_le_iff] using hfuel)
    refine ⟨left, hlen, ?_⟩
    rw [List.append_assoc, List.cons_append, hleft]
    exact hmore
  | disjunct _ ih =>
    intro hand
    obtain ⟨fuel, -, hitem⟩ := ih hdepth hts hr
    rw [readMore_of_not_startsWith hand] at hitem
    exact ⟨rest.length, Nat.le_refl _, by rw [readDisjunction, readChain, hitem]⟩
  | @or left right _ _ _ _ iha ihb =>
    intro hand
    obtain ⟨us, vs, rfl, hus, hvs⟩ := kinds_eq_append hts
    obtain ⟨p, ws, rfl, hws⟩ := kinds_eq_cons hvs
    simp only [List.length_append, List.length_cons] at hdepth
    have hleft : left.length ≤ depth := by omega
    have hright : right.length ≤ depth := by omega
    have hor : Tokens.EndsTest (⟨.word "OR", p⟩ :: (ws ++ rest)) := .inr (.inr (.inr (.inl rfl)))
    obtain ⟨fuel, hfuel, hleft⟩ := iha hleft hus hor rfl
    obtain ⟨_, -, hitem⟩ := ihb hright hws hr
    rw [readMore_of_not_startsWith hand] at hitem
    obtain ⟨left, hlen, hmore⟩ :=
      k.readMore_item .or p hitem (by simpa [Nat.succ_le_iff] using hfuel)
    refine ⟨left, hlen, ?_⟩
    rw [List.append_assoc, List.cons_append, hleft]
    exact hmore

/-- What is derivable is read whole, in front of tokens that end an expression. -/
theorem read_of_derives (hk : k.Agrees Test) {used : List Token} {a : α}
    (h : k.Derives Test .disjunction used a) {ts rest : Tokens} (hts : ts.kinds = used)
    (hr : rest.EndsExpression) : k.read (ts ++ rest) = .ok (a, rest) := by
  have hdepth : used.length ≤ List.length (ts ++ rest) := by
    rw [← hts, length_kinds, List.length_append]
    omega
  obtain ⟨fuel, -, hread⟩ :=
    readsAt_of_derives hk h hdepth hts hr.endsTest (hr.not_startsWith .and)
  rw [read, hread, readMore_of_not_startsWith (hr.not_startsWith .or)]

/-- An expression begins with a token other than the end of input. -/
theorem Derives.head (hk : k.Agrees Test) {level : Level} {ts : List Token} {a : α}
    (h : k.Derives Test level ts a) : ∃ t us, ts = t :: us ∧ t ≠ .endOfInput := by
  induction h with
  | test ht =>
    obtain ⟨t, us, rfl, -, -, hend⟩ := hk.head ht
    exact ⟨t, us, rfl, hend⟩
  | negation _ => exact ⟨_, _, rfl, by simp⟩
  | parens _ => exact ⟨_, _, rfl, by simp⟩
  | conjunct _ ih => exact ih
  | disjunct _ ih => exact ih
  | and _ _ ih =>
    obtain ⟨t, us, rfl, ht⟩ := ih
    exact ⟨t, _, rfl, ht⟩
  | or _ _ ih =>
    obtain ⟨t, us, rfl, ht⟩ := ih
    exact ⟨t, _, rfl, ht⟩

end Connectives

end Compliance
