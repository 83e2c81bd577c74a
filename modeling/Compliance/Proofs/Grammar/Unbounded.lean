import Compliance.Proofs.Grammar.Test

/-!
# Compliance.Proofs.Grammar.Unbounded

Lists and expressions are read with a bound on how many items there are and how deep they nest.
Every item takes a token, so the number of tokens is enough, and a larger bound changes nothing.

* `Connectives.more`   — further items of a chain, without a bound.
* `Connectives.unary`  — a test, a negation or an expression in parentheses, without a bound.
* `Operand.items`      — operands up to the closing bracket, without a bound.
-/

namespace Compliance

open Tokens

/-- Reads something at the start of the tokens, and returns what stands behind it. -/
abbrev Reader (α : Type) : Type := Tokens → Except Diagnostic (α × Tokens)

/-- What is read takes at least one token. -/
def Reader.Shortens {α : Type} (f : Reader α) : Prop :=
  ∀ {ts rest : Tokens} {a : α}, f ts = .ok (a, rest) → List.length rest < List.length ts

namespace Connectives

variable {α : Type} {k : Connectives α} {Test : List Token → α → Prop} {op : Connective}
  {item : Reader α}

/-! ## Chains -/

theorem readMore_bound (hitem : Reader.Shortens item) {n m : Nat} {left : α} {ts : Tokens}
    (hn : ts.length ≤ n) (hm : ts.length ≤ m) :
    k.readMore op item n left ts = k.readMore op item m left ts := by
  induction n generalizing m left ts with
  | zero =>
    rw [List.length_eq_zero_iff.1 (Nat.le_zero.1 hn)]
    rw [readMore_of_not_startsWith rfl, readMore_of_not_startsWith rfl]
  | succ n ih =>
    cases m with
    | zero =>
      rw [List.length_eq_zero_iff.1 (Nat.le_zero.1 hm)]
      rw [readMore_of_not_startsWith rfl, readMore_of_not_startsWith rfl]
    | succ m =>
      simp only [readMore]
      split
      · cases hread : item ts.skip with
        | error d => rfl
        | ok result =>
          have hshort := hitem hread
          simp only [skip, List.length_tail] at hshort
          exact ih (by omega) (by omega)
      · rfl

/-- Reads further items behind `left`. -/
def more (k : Connectives α) (op : Connective) (item : Reader α) (left : α) : Reader α :=
  fun ts => k.readMore op item ts.length left ts

theorem readChain_eq (ts : Tokens) :
    k.readChain op item ts =
      match item ts with
      | .error d => .error d
      | .ok (left, rest) => k.more op item left rest := rfl

theorem more_cons (hitem : Reader.Shortens item) (left : α) (p : Position) (ts : Tokens) :
    k.more op item left (⟨.word op.keyword, p⟩ :: ts) =
      match item ts with
      | .error d => .error d
      | .ok (right, rest) => k.more op item (k.logical left op right) rest := by
  simp only [more, List.length_cons, readMore, startsWith_cons, beq_self_eq_true, ↓reduceIte,
    skip_cons]
  cases hread : item ts with
  | error d => rfl
  | ok result => exact readMore_bound hitem (Nat.le_of_lt (hitem hread)) (Nat.le_refl _)

theorem more_of_not_startsWith {left : α} {ts : Tokens} (h : ts.startsWith op.keyword = false) :
    k.more op item left ts = .ok (left, ts) :=
  readMore_of_not_startsWith h

theorem readMore_congr {item' : Reader α} (hitem : Reader.Shortens item) {n : Nat} {left : α}
    {ts : Tokens} (h : ∀ us : Tokens, us.length ≤ ts.length → item us = item' us) :
    k.readMore op item n left ts = k.readMore op item' n left ts := by
  induction n generalizing left ts with
  | zero => rfl
  | succ n ih =>
    have hskip : List.length ts.skip ≤ List.length ts := by simp [skip]
    simp only [readMore, ← h ts.skip hskip]
    split
    · cases hread : item ts.skip with
      | error d => rfl
      | ok result =>
        have hrest := Nat.le_trans (Nat.le_of_lt (hitem hread)) hskip
        exact ih fun us hus => h us (Nat.le_trans hus hrest)
    · rfl

theorem readChain_congr {item' : Reader α} (hitem : Reader.Shortens item) {ts : Tokens}
    (h : ∀ us : Tokens, us.length ≤ ts.length → item us = item' us) :
    k.readChain op item ts = k.readChain op item' ts := by
  simp only [readChain, ← h ts (Nat.le_refl _)]
  cases hread : item ts with
  | error d => rfl
  | ok result =>
    have hrest := Nat.le_of_lt (hitem hread)
    exact readMore_congr hitem fun us hus => h us (Nat.le_trans hus hrest)

/-! ## Nesting -/

theorem shortens_of_derives (hk : k.Agrees Test) {level : Level}
    (h : ∀ {ts rest : Tokens} {a : α}, item ts = .ok (a, rest) →
      ∃ used : Tokens, ts = used ++ rest ∧ k.Derives Test level used.kinds a) :
    Reader.Shortens item := by
  intro ts rest a hread
  obtain ⟨used, rfl, hd⟩ := h hread
  obtain ⟨t, us, hused, -⟩ := hd.head hk
  obtain ⟨p, vs, rfl, -⟩ := kinds_eq_cons hused
  simp only [List.cons_append, List.length_cons, List.length_append]
  omega

theorem readUnary_shortens (hk : k.Agrees Test) (depth : Nat) :
    Reader.Shortens (k.readUnary depth) :=
  shortens_of_derives hk (derives_of_readUnary hk)

theorem readConjunction_shortens (hk : k.Agrees Test) (depth : Nat) :
    Reader.Shortens (k.readChain .and (k.readUnary depth)) :=
  shortens_of_derives hk (derives_of_readChain (derives_of_readUnary hk) .conjunct .and)

theorem readDisjunction_congr (hk : k.Agrees Test) {n : Nat} {unary : Reader α} {ts : Tokens}
    (h : ∀ us : Tokens, us.length ≤ ts.length → k.readUnary n us = unary us) :
    k.readDisjunction (k.readUnary n) ts = k.readDisjunction unary ts :=
  readChain_congr (readConjunction_shortens hk n) fun _ hus =>
    readChain_congr (readUnary_shortens hk n) fun vs hvs => h vs (Nat.le_trans hvs hus)

theorem readUnary_bound (hk : k.Agrees Test) {n m : Nat} {ts : Tokens} (hn : ts.length ≤ n)
    (hm : ts.length ≤ m) : k.readUnary n ts = k.readUnary m ts := by
  induction n generalizing m ts with
  | zero =>
    rw [List.length_eq_zero_iff.1 (Nat.le_zero.1 hn)]
    cases m <;> rfl
  | succ n ih =>
    cases m with
    | zero =>
      rw [List.length_eq_zero_iff.1 (Nat.le_zero.1 hm)]
      rfl
    | succ m =>
      have hskip : List.length ts.skip ≤ n ∧ List.length ts.skip ≤ m := by
        simp only [skip, List.length_tail]
        omega
      have hinner : k.readDisjunction (k.readUnary n) ts.skip =
          k.readDisjunction (k.readUnary m) ts.skip :=
        readDisjunction_congr hk fun us hus =>
          ih (Nat.le_trans hus hskip.1) (Nat.le_trans hus hskip.2)
      simp only [readUnary, ih hskip.1 hskip.2, hinner]

/-- Reads a test, a negation or an expression in parentheses. -/
def unary (k : Connectives α) : Reader α := fun ts => k.readUnary ts.length ts

theorem read_eq (hk : k.Agrees Test) (ts : Tokens) : k.read ts = k.readDisjunction k.unary ts :=
  readDisjunction_congr hk fun _ hus => readUnary_bound hk hus (Nat.le_refl _)

theorem unary_not (p : Position) (ts : Tokens) :
    k.unary (⟨.word "NOT", p⟩ :: ts) = andThen k.unary k.negation ts := rfl

theorem unary_paren (p : Position) (ts : Tokens) :
    k.unary (⟨.leftParen, p⟩ :: ts) =
      match k.read ts with
      | .error d => .error d
      | .ok (inner, rest) =>
        if rest.next == .rightParen then .ok (inner, rest.skip)
        else rest.refuse (.unclosedParen rest.next) := rfl

theorem unary_of_test {ts : Tokens} (hnot : ts.next ≠ .word "NOT") (hparen : ts.next ≠ .leftParen) :
    k.unary ts = k.readTest ts := by
  cases ts with
  | nil => rfl
  | cons t ts => simp_all [unary, readUnary]

theorem unary_shortens (hk : k.Agrees Test) : Reader.Shortens k.unary :=
  fun h => readUnary_shortens hk _ h

theorem conjunction_shortens (hk : k.Agrees Test) :
    Reader.Shortens (k.readChain .and k.unary) := by
  intro ts rest a h
  rw [readChain_congr (unary_shortens hk) fun us hus =>
    readUnary_bound hk (Nat.le_refl us.length) hus] at h
  exact readConjunction_shortens hk ts.length h

end Connectives

/-! ## Lists -/

namespace Operand

theorem read_shortens : Reader.Shortens Operand.read := by
  intro ts rest v hread
  obtain ⟨used, rfl, hd⟩ := derives_of_read hread
  obtain ⟨t, us, hused, -⟩ := hd.head
  obtain ⟨p, vs, rfl, -⟩ := kinds_eq_cons hused
  simp only [List.cons_append, List.length_cons, List.length_append]
  omega

theorem readMore_bound {n m : Nat} {ts : Tokens} (hn : ts.length < n) (hm : ts.length < m) :
    Operand.readMore n ts = Operand.readMore m ts := by
  induction n generalizing m ts with
  | zero => omega
  | succ n ih =>
    obtain ⟨m, rfl⟩ : ∃ m', m = m' + 1 := ⟨m - 1, by omega⟩
    simp only [Operand.readMore]
    cases hread : Operand.read ts with
    | error d => rfl
    | ok result =>
      obtain ⟨v, rest⟩ := result
      have hshort := read_shortens hread
      have hskip : List.length rest.skip ≤ List.length rest := by simp [skip]
      have hmore : Operand.readMore n rest.skip = Operand.readMore m rest.skip :=
        ih (by omega) (by omega)
      simp only [hmore]

/-- Reads operands with commas between them, up to the closing bracket. -/
def items : Reader (List Operand) := fun ts => Operand.readMore (ts.length + 1) ts

/-- Reads what follows an operand of a list. -/
def itemsBehind (v : Operand) : Reader (List Operand) := fun ts =>
  match ts.next with
  | .comma => andThen items (v :: ·) ts.skip
  | .rightBracket => .ok ([v], ts.skip)
  | got => ts.refuse (.expectedListEnd got)

theorem items_eq (ts : Tokens) :
    items ts =
      match Operand.read ts with
      | .error d => .error d
      | .ok (v, rest) => itemsBehind v rest := by
  simp only [items, itemsBehind, Operand.readMore]
  cases hread : Operand.read ts with
  | error d => rfl
  | ok result =>
    obtain ⟨v, rest⟩ := result
    have hshort := read_shortens hread
    have hskip : List.length rest.skip ≤ List.length rest := by simp [skip]
    simp only
    rw [readMore_bound (m := rest.skip.length + 1) (by omega) (by omega)]
    simp only [andThen, items]
    cases Operand.readMore (rest.skip.length + 1) rest.skip <;> rfl

theorem readList_cons (p : Position) (ts : Tokens) (h : ts.next ≠ .rightBracket) :
    Operand.readList (⟨.leftBracket, p⟩ :: ts) = items ts := by
  have hne : (ts.next == Token.rightBracket) = false := by simpa using h
  simp only [Operand.readList, next_cons, skip_cons, beq_self_eq_true, ↓reduceIte, hne,
    Bool.false_eq_true]
  rfl

end Operand

end Compliance
