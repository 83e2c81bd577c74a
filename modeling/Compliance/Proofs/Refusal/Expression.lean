import Compliance.Proofs.Refusal.Overread

/-!
# Compliance.Proofs.Refusal.Expression

Where expressions are refused, whatever their tests are.

* `Connectives.settles_readChain`  — items with a connective between them.
* `Connectives.settles_unary`      — tests, negations and expressions in parentheses.
* `Connectives.settles_read`       — whole expressions.
-/

namespace Compliance

open Tokens

theorem Connective.keyword_mem_separators (op : Connective) : op.keyword ∈ separators := by
  cases op <;> decide

namespace Connectives

variable {α : Type} {k : Connectives α} {Test : List Token → α → Prop}

/-! ## Chains -/

section Chain

variable {op : Connective} {item : Reader α} {Item Chain : List Token → α → Prop}

/-- A reader that has read a chain up to `left` and goes on with further items. -/
theorem settles_more (hshort : Reader.Shortens item)
    (hjoin : ∀ {ts us : List Token} {a b : α}, Chain ts a → Item us b →
      Chain (ts ++ .word op.keyword :: us) (k.logical a op b))
    {f : Reader α} {used rest : Tokens} {left : α}
    (hitem : ∀ us : Tokens, us.length < rest.length → Settles item Item Overread us)
    (hleft : Chain used.kinds left) (hclear : ¬ Overread used.kinds rest.next)
    (hf : ∀ us vs : Tokens, us.kinds = used.kinds → vs.Like rest →
      f (us ++ vs) = k.more op item left vs) :
    Settles f Chain Overread (used ++ rest) := by
  induction hn : rest.length using Nat.strongRecOn generalizing used rest left with
  | ind n ih =>
    by_cases hnext : rest.next = .word op.keyword
    · obtain ⟨p, hrest⟩ := eq_cons_of_next hnext (by simp)
      have hlen := length_skip_lt hnext (by simp)
      have hcons {us vs : Tokens} (q : Position) (hus : us.kinds = used.kinds) :
          f (us ++ ⟨.word op.keyword, q⟩ :: vs) =
            k.more op item left (⟨.word op.keyword, q⟩ :: vs) := by
        have hne : Token.word op.keyword ≠ .word "NOT" := by cases op <;> decide
        exact hf us _ hus (.of_cons hnext hne q vs)
      cases hread : item rest.skip with
      | error d =>
        have hwhole : f (used ++ rest) = .error d := by rw [hrest, hcons p rfl, more_cons hshort, hread]
        rw [Settles, hwhole]
        refine ((hitem _ (by omega)).refusal hread).behind_next used hnext (by simp) ?_ ?_ ?_
        · intro us vs q e hus _ he
          exact ⟨e, by rw [hcons q hus, more_cons hshort, he]⟩
        · intro ks b hb
          exact .of_derives (hjoin hleft hb)
        · intro ks u _
          exact overread_behind_separator op.keyword_mem_separators
      | ok result =>
        obtain ⟨right, rest'⟩ := result
        have hless := hshort hread
        obtain ⟨mid, hskip, hmid⟩ := (hitem _ (by omega)).taken hread
        have hwhole : used ++ rest = (used ++ ⟨.word op.keyword, p⟩ :: mid) ++ rest' := by
          rw [List.append_assoc, List.cons_append, ← hskip, ← hrest]
        have hmore : Chain (Tokens.kinds (used ++ ⟨.word op.keyword, p⟩ :: mid))
            (k.logical left op right) := by
          rw [kinds_append]
          exact hjoin hleft hmid.derives
        rw [hwhole]
        refine ih rest'.length (by omega) (fun us hus => hitem us (by omega)) hmore ?_ ?_ rfl
        · rw [kinds_append, kinds_cons, overread_behind_separator op.keyword_mem_separators]
          exact hmid.clear
        · intro us vs hus hvs
          rw [kinds_append] at hus
          obtain ⟨us, q, ws, rfl, hus, hws⟩ := kinds_eq_infix hus
          rw [List.append_assoc, List.cons_append, hcons q hus, more_cons hshort,
            hmid.stays ws vs hws hvs]
    · have hstop {us vs : Tokens} (hus : us.kinds = used.kinds) (hvs : vs.Like rest) :
          f (us ++ vs) = .ok (left, vs) := by
        rw [hf us vs hus hvs, more_of_not_startsWith]
        simpa [startsWith, hvs.next] using hnext
      rw [Settles, hstop rfl (.refl rest)]
      exact ⟨used, rfl, hleft, fun us vs => hstop, hclear⟩

theorem settles_readChain (hshort : Reader.Shortens item)
    (hone : ∀ {ts : List Token} {a : α}, Item ts a → Chain ts a)
    (hjoin : ∀ {ts us : List Token} {a b : α}, Chain ts a → Item us b →
      Chain (ts ++ .word op.keyword :: us) (k.logical a op b))
    {ts : Tokens} (hitem : ∀ us : Tokens, us.length ≤ ts.length → Settles item Item Overread us) :
    Settles (k.readChain op item) Chain Overread ts := by
  cases hread : item ts with
  | error d =>
    rw [Settles, readChain_eq, hread]
    refine ((hitem ts (Nat.le_refl _)).refusal hread).pass ?_ ?_
    · intro vs e _ he
      exact ⟨e, by rw [readChain_eq, he]⟩
    · intro ks b hb
      exact .of_derives (hone hb)
  | ok result =>
    obtain ⟨left, rest⟩ := result
    have hless := hshort hread
    obtain ⟨used, rfl, hused⟩ := (hitem ts (Nat.le_refl _)).taken hread
    refine settles_more hshort hjoin (fun us hus => hitem us (by omega)) (hone hused.derives)
      hused.clear ?_
    intro us vs hus hvs
    rw [readChain_eq, hused.stays us vs hus hvs]

end Chain

/-! ## Nesting -/

theorem settles_read_of_unary (hk : k.Agrees Test) {ts : Tokens}
    (hunary : ∀ us : Tokens, us.length ≤ ts.length →
      Settles k.unary (k.Derives Test .unary) Overread us) :
    Settles k.read (k.Derives Test .disjunction) Overread ts := by
  have hread : k.read = k.readChain .or (k.readChain .and k.unary) := funext (read_eq hk)
  rw [hread]
  refine settles_readChain (conjunction_shortens hk) .disjunct .or fun us hus => ?_
  exact settles_readChain (unary_shortens hk) .conjunct .and fun vs hvs =>
    hunary vs (Nat.le_trans hvs hus)

theorem settles_paren {ts : Tokens} (hparen : ts.next = .leftParen)
    (h : Settles k.read (k.Derives Test .disjunction) Overread ts.skip) :
    Settles k.unary (k.Derives Test .unary) Overread ts := by
  obtain ⟨p, hts⟩ := eq_cons_of_next hparen (by simp)
  have hplain {ks : List Token} {u : Token} : Overread (.leftParen :: ks) u ↔ Overread ks u :=
    overread_behind_plain noReserved_nil (by simp)
  cases hread : k.read ts.skip with
  | error d =>
    have hwhole : k.unary ts = .error d := by rw [hts, unary_paren, hread]
    rw [Settles, hwhole]
    refine (h.refusal hread).behind_next [] hparen (by simp) ?_ ?_ fun _ _ _ => hplain
    · intro us vs q e hus _ he
      obtain rfl := List.map_eq_nil_iff.1 hus
      exact ⟨e, by rw [List.nil_append, unary_paren, he]⟩
    · intro ks b hb
      exact ⟨[.rightParen], b, by decide, by simpa using .parens hb⟩
  | ok result =>
    obtain ⟨inner, rest⟩ := result
    obtain ⟨mid, hskip, hmid⟩ := h.taken hread
    rw [hts, hskip]
    have hunary {vs ws : Tokens} (q : Position) (hvs : vs.kinds = mid.kinds) (hws : ws.Like rest) :
        k.unary (⟨.leftParen, q⟩ :: (vs ++ ws)) =
          if ws.next == .rightParen then .ok (inner, ws.skip)
          else ws.refuse (.unclosedParen ws.next) := by
      rw [unary_paren, hmid.stays vs ws hvs hws]
    rw [Settles, hunary p rfl (.refl rest)]
    split
    · rename_i hclose
      obtain ⟨q, hrest⟩ := eq_cons_of_next (beq_iff_eq.1 hclose) (by simp)
      refine ⟨⟨.leftParen, p⟩ :: (mid ++ [⟨.rightParen, q⟩]), ?_, ?_, ?_, ?_⟩
      · rw [List.cons_append, ← List.append_cons, ← hrest]
      · simpa using .parens hmid.derives
      · intro us vs hus _
        obtain ⟨q, us, rfl, htail⟩ := kinds_eq_cons hus
        obtain ⟨us, ws, rfl, hfront, hlast⟩ := kinds_eq_append_kinds htail
        obtain ⟨r, rfl⟩ := kinds_eq_singleton hlast
        rw [List.cons_append, List.append_assoc]
        exact hunary q hfront (.of_cons (beq_iff_eq.1 hclose) (by simp) r vs)
      · rw [kinds_cons, kinds_append, hplain]
        exact not_overread_rightParen mid.kinds rest.skip.next
    · rename_i hclose
      refine .exact (⟨.leftParen, p⟩ :: mid) rest rfl rfl ?_ ?_ ?_
      · intro us vs hus hvs
        obtain ⟨q, us, rfl, htail⟩ := kinds_eq_cons hus
        refine ⟨_, (hunary q htail hvs).trans (if_neg ?_)⟩
        rw [hvs.next]
        exact hclose
      · exact ⟨[.rightParen], inner, by decide, .parens hmid.derives⟩
      · rw [kinds_cons, hplain]
        exact hmid.clear

theorem settles_unary (hk : k.Agrees Test) (htest : ∀ ts, Settles k.readTest Test Overread ts)
    (ts : Tokens) : Settles k.unary (k.Derives Test .unary) Overread ts := by
  induction hn : ts.length using Nat.strongRecOn generalizing ts with
  | ind n ih =>
    by_cases hnot : ts.next = .word "NOT"
    · have hlt : List.length ts.skip < n := hn ▸ length_skip_lt hnot (by simp)
      refine (ih _ hlt ts.skip rfl).behind_next [] hnot (by simp) k.negation ?_ ?_ ?_
      · intro us vs q hus _
        obtain rfl := List.map_eq_nil_iff.1 hus
        exact unary_not q vs
      · intro ks b hb
        exact .negation hb
      · intro ks u _
        exact overread_behind_separator (by decide)
    · by_cases hparen : ts.next = .leftParen
      · have hlt : List.length ts.skip < n := hn ▸ length_skip_lt hparen (by simp)
        exact settles_paren hparen <| settles_read_of_unary hk fun us hus =>
          ih us.length (Nat.lt_of_le_of_lt hus hlt) us rfl
      · refine (htest ts).behind [] (fun a => a) ?_ (fun _ _ hb => .test hb) fun _ _ _ => Iff.rfl
        intro us vs hus hvs
        obtain rfl := List.map_eq_nil_iff.1 hus
        rw [andThen_id]
        exact unary_of_test (hvs.next ▸ hnot) (hvs.next ▸ hparen)

/-- Whole expressions are refused like the tests they consist of. -/
theorem settles_read (hk : k.Agrees Test) (htest : ∀ ts, Settles k.readTest Test Overread ts)
    (ts : Tokens) : Settles k.read (k.Derives Test .disjunction) Overread ts :=
  settles_read_of_unary hk fun us _ => settles_unary hk htest us

end Connectives

end Compliance
