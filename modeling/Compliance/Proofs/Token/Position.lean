import Compliance.Proofs.Except
import Compliance.Token.Scanning

/-!
# Compliance.Proofs.Token.Position

The tokens of a text stand one behind the other.

* `Position.Before`      — places in the order of a text.
* `Token.pairwise_scan`  — each token stands before all that follow it.
-/

namespace Compliance

namespace Position

/-- `p` stands on an earlier line than `q`, or further left on the same one. -/
def Before (p q : Position) : Prop := p.line < q.line ∨ p.line = q.line ∧ p.column < q.column

theorem Before.trans {p q r : Position} (h : p.Before q) (h' : q.Before r) : p.Before r := by
  simp only [Before] at *
  omega

theorem Before.trans_eq {p q r : Position} (h : p.Before q) (h' : q = r ∨ q.Before r) :
    p.Before r := by
  rcases h' with rfl | h'
  · exact h
  · exact h.trans h'

theorem Before.ne {p q : Position} (h : p.Before q) : p ≠ q := by
  rintro rfl
  simp only [Before] at h
  omega

theorem before_step (p : Position) (c : Char) : p.Before (p.step c) := by
  simp only [step]
  split
  · exact .inl (Nat.lt_succ_self _)
  · exact .inr ⟨rfl, Nat.lt_succ_self _⟩

theorem Before.behind {p q : Position} (h : p.Before q) (cs : List Char) :
    p.Before (q.behind cs) := by
  induction cs generalizing q with
  | nil => exact h
  | cons c cs ih => exact ih (h.trans (before_step q c))

end Position

namespace Token

/-- All tokens of a text that starts at `p` stand there or behind it, in their order. -/
theorem pairwise_scanFrom {p : Position} {cs : List Char} {ts : List PlacedToken}
    (h : scanFrom p cs = .ok ts) :
    (∀ t ∈ ts, p = t.position ∨ p.Before t.position) ∧
      ts.Pairwise fun t u => t.position.Before u.position := by
  induction p, cs using scanFrom.induct generalizing ts with
  | case1 p =>
    rw [scanFrom] at h
    cases h
    simp
  | case2 p c cs hcomment ih =>
    rw [scanFrom, if_pos hcomment] at h
    obtain ⟨hbehind, hpairs⟩ := ih h
    have hstep := (p.before_step c).behind (cs.takeWhile (· != '\n'))
    exact ⟨fun t ht => .inr (hstep.trans_eq (hbehind t ht)), hpairs⟩
  | case3 p c cs hcomment hblank ih =>
    rw [scanFrom, if_neg hcomment, if_pos hblank] at h
    obtain ⟨hbehind, hpairs⟩ := ih h
    exact ⟨fun t ht => .inr ((p.before_step c).trans_eq (hbehind t ht)), hpairs⟩
  | case4 p c cs hcomment hblank fault hread =>
    rw [scanFrom, if_neg hcomment, if_neg hblank, hread] at h
    cases h
  | case5 p c cs hcomment hblank t n hread ih =>
    rw [scanFrom, if_neg hcomment, if_neg hblank, hread] at h
    obtain ⟨rest, hrest, rfl⟩ := Except.map_eq_ok h
    obtain ⟨hbehind, hpairs⟩ := ih hrest
    have hstep := (p.before_step c).behind (cs.take n)
    have hafter : ∀ u ∈ rest, p.Before u.position := fun u hu => hstep.trans_eq (hbehind u hu)
    refine ⟨?_, List.pairwise_cons.2 ⟨hafter, hpairs⟩⟩
    intro u hu
    rcases List.mem_cons.1 hu with rfl | hu
    · exact .inl rfl
    · exact .inr (hafter u hu)

theorem pairwise_scan {source : String} {ts : List PlacedToken} (h : scan source = .ok ts) :
    ts.Pairwise fun t u => t.position.Before u.position :=
  (pairwise_scanFrom h).2

end Token

end Compliance
