import Compliance.Rule.Text
import Compliance.Token.Scanning

/-!
# Compliance.Proofs.Token.Quotation

Texts between quotes.

* `Breaks`                      — a text that nothing in front of it runs into.
* `HidesQuote`                  — texts whose spelling is read as another text.
* `Quotation`                   — what is read between quotes, as a relation.
* `quoted?_doubleQuotes`        — a text that hides no quote is read back.
* `ne_of_quoted?_doubleQuotes`  — a text that hides a quote is not.
-/

namespace Compliance

/-! ## Breaks -/

/-- The characters that are part of no word, number or instant. -/
def isBreak (c : Char) : Bool := c == ' ' || c == '(' || c == ')' || c == ',' || c == ']'

/-- Nothing in front runs into this text. -/
def Breaks (rest : List Char) : Prop := ∀ c cs, rest = c :: cs → isBreak c = true

theorem breaks_nil : Breaks [] := by
  intro c cs h
  cases h

theorem breaks_cons {c : Char} (h : isBreak c = true) (cs : List Char) : Breaks (c :: cs) := by
  rintro d ds ⟨⟩
  exact h

theorem eq_of_isBreak {c : Char} (h : isBreak c = true) :
    c = ' ' ∨ c = '(' ∨ c = ')' ∨ c = ',' ∨ c = ']' := by
  simpa [isBreak, or_assoc] using h

/-- What holds of the five characters holds of every break. -/
theorem Breaks.head {rest : List Char} (h : Breaks rest) (P : Char → Prop)
    (hP : P ' ' ∧ P '(' ∧ P ')' ∧ P ',' ∧ P ']') : ∀ c cs, rest = c :: cs → P c := by
  intro c cs hrest
  obtain ⟨h1, h2, h3, h4, h5⟩ := hP
  rcases eq_of_isBreak (h c cs hrest) with rfl | rfl | rfl | rfl | rfl <;> assumption

namespace Token

/-! ## Texts -/

/-- The sign of a text that its spelling hides: a quote behind a backslash. -/
def HidesQuote (s : List Char) : Prop := ['\\', '\''] <:+: s

theorem hidesQuote_cons {c : Char} {s : List Char} :
    HidesQuote (c :: s) ↔ (c = '\\' ∧ ∃ t, s = '\'' :: t) ∨ HidesQuote s := by
  rw [HidesQuote, List.infix_cons_iff, HidesQuote]
  apply or_congr_left
  constructor
  · rintro ⟨t, ht⟩
    cases ht
    exact ⟨rfl, t, rfl⟩
  · rintro ⟨rfl, t, rfl⟩
    exact ⟨t, rfl⟩

theorem quoted?_quote (cs : List Char) :
    quoted? ('\'' :: '\'' :: cs) = (quoted? cs).map fun (s, n) => ('\'' :: s, n + 2) := by
  rw [quoted?]

theorem quoted?_cons {c : Char} {cs : List Char} (hc : c ≠ '\'')
    (hcs : c = '\\' → ∀ t, cs ≠ '\'' :: t) :
    quoted? (c :: cs) = (quoted? cs).map fun (s, n) => (c :: s, n + 1) := by
  rw [quoted?, if_neg (by simpa using hc)]
  · rintro t rfl
    exact absurd rfl hc
  · rintro t rfl rfl
    exact absurd rfl (hcs rfl t)

theorem doubleQuotes_quote (s : List Char) :
    doubleQuotes ('\'' :: s) = '\'' :: '\'' :: doubleQuotes s := rfl

theorem doubleQuotes_cons {c : Char} (hc : c ≠ '\'') (s : List Char) :
    doubleQuotes (c :: s) = c :: doubleQuotes s := by
  rw [doubleQuotes, if_neg (by simpa using hc)]

/-- A quote that closes a text has no quote behind it. -/
theorem quoted?_close {rest : List Char} (h : Breaks rest) :
    quoted? ('\'' :: rest) = some ([], 1) := by
  cases rest with
  | nil => rfl
  | cons c cs =>
    have hc : c ≠ '\'' := h.head (· ≠ '\'') (by decide) c cs rfl
    rw [quoted?]
    · rfl
    · rintro t - ⟨⟩
      exact hc rfl
    · rintro t ⟨⟩

/-- Where a backslash stands directly in front of a quote, the quote is one of a pair that doubles
it. -/
theorem head_doubleQuotes_append {s rest cs : List Char} (hne : s ≠ [])
    (h : doubleQuotes s ++ '\'' :: rest = '\'' :: cs) : ∃ t, s = '\'' :: t := by
  cases s with
  | nil => exact absurd rfl hne
  | cons c s =>
    by_cases hc : c = '\''
    · exact ⟨s, by rw [hc]⟩
    · rw [doubleQuotes_cons hc] at h
      exact absurd (List.cons.inj h).1 hc

/-- A text that hides no quote is read back. -/
theorem quoted?_doubleQuotes {s rest : List Char} (hs : ¬ HidesQuote s)
    (hend : s.getLast? ≠ some '\\') (h : Breaks rest) :
    quoted? (doubleQuotes s ++ '\'' :: rest) = some (s, (doubleQuotes s).length + 1) := by
  induction s with
  | nil => exact quoted?_close h
  | cons c s ih =>
    rw [hidesQuote_cons, not_or] at hs
    obtain ⟨hhead, hs⟩ := hs
    have hend' : s.getLast? ≠ some '\\' := by
      cases s with
      | nil => simp
      | cons d s => simpa using hend
    have hread := ih hs hend'
    by_cases hc : c = '\''
    · subst hc
      rw [doubleQuotes_quote, List.cons_append, List.cons_append, quoted?_quote, hread]
      rfl
    · rw [doubleQuotes_cons hc, List.cons_append, quoted?_cons hc, hread]
      · rfl
      · rintro rfl t ht
        have hne : s ≠ [] := by
          rintro rfl
          exact hend rfl
        exact hhead ⟨rfl, head_doubleQuotes_append hne ht⟩

/-! ## What is read -/

/-- `cs` begins with the text `s` and the quote behind it, `n` characters in all. -/
inductive Quotation : List Char → List Char → Nat → Prop where
  | close (cs : List Char) : Quotation ('\'' :: cs) [] 1
  | doubled {cs s : List Char} {n : Nat} (h : Quotation cs s n) :
      Quotation ('\'' :: '\'' :: cs) ('\'' :: s) (n + 2)
  | escaped {cs s : List Char} {n : Nat} (h : Quotation cs s n) :
      Quotation ('\\' :: '\'' :: cs) ('\'' :: s) (n + 2)
  | plain {c : Char} {cs s : List Char} {n : Nat} (hcs : c = '\\' → ∀ t, cs ≠ '\'' :: t)
      (h : Quotation cs s n) : Quotation (c :: cs) (c :: s) (n + 1)

theorem quotation_of_quoted? {cs s : List Char} {n : Nat} (h : quoted? cs = some (s, n)) :
    Quotation cs s n := by
  induction cs using quoted?.induct generalizing s n with
  | case1 => cases h
  | case2 cs ih =>
    rw [quoted?] at h
    obtain ⟨⟨t, m⟩, hq, ⟨⟩⟩ := Option.map_eq_some_iff.1 h
    exact .doubled (ih hq)
  | case3 cs ih =>
    rw [quoted?] at h
    obtain ⟨⟨t, m⟩, hq, ⟨⟩⟩ := Option.map_eq_some_iff.1 h
    exact .escaped (ih hq)
  | case4 c cs hdoubled hescaped hc =>
    rw [quoted?, if_pos hc] at h
    · cases h
      rw [show c = '\'' by simpa using hc]
      exact .close cs
    · exact hdoubled
    · exact hescaped
  | case5 c cs hdoubled hescaped hc ih =>
    rw [quoted?, if_neg hc] at h
    · obtain ⟨⟨t, m⟩, hq, ⟨⟩⟩ := Option.map_eq_some_iff.1 h
      refine .plain ?_ (ih hq)
      rintro rfl t rfl
      exact hescaped t rfl rfl
    · exact hdoubled
    · exact hescaped

/-- A text that hides a quote is read as another text. -/
theorem ne_of_quoted?_doubleQuotes {s t rest : List Char} {n : Nat} (hs : HidesQuote s)
    (h : quoted? (doubleQuotes s ++ '\'' :: rest) = some (t, n)) : t ≠ s := by
  induction s generalizing t n with
  | nil =>
    have hlen := hs.length_le
    simp at hlen
  | cons c s ih =>
    rw [hidesQuote_cons] at hs
    by_cases hc : c = '\''
    · subst hc
      have hs' : HidesQuote s := hs.resolve_left fun h => absurd h.1 (by decide)
      rw [doubleQuotes_quote, List.cons_append, List.cons_append, quoted?_quote] at h
      obtain ⟨⟨u, m⟩, hq, ⟨⟩⟩ := Option.map_eq_some_iff.1 h
      rintro ⟨⟩
      exact ih hs' hq rfl
    · by_cases hhead : c = '\\' ∧ ∃ u, s = '\'' :: u
      · -- the backslash is taken with the first quote of the pair
        obtain ⟨rfl, u, rfl⟩ := hhead
        rw [doubleQuotes_cons (by decide), doubleQuotes_quote, List.cons_append, List.cons_append,
          quoted?] at h
        obtain ⟨⟨u, m⟩, hq, ⟨⟩⟩ := Option.map_eq_some_iff.1 h
        rintro ⟨⟩
      · have hs' : HidesQuote s := hs.resolve_left hhead
        have hne : s ≠ [] := by
          rintro rfl
          have hlen := hs'.length_le
          simp at hlen
        rw [doubleQuotes_cons hc, List.cons_append, quoted?_cons hc] at h
        · obtain ⟨⟨u, m⟩, hq, ⟨⟩⟩ := Option.map_eq_some_iff.1 h
          rintro ⟨⟩
          exact ih hs' hq rfl
        · rintro rfl u hu
          exact hhead ⟨rfl, head_doubleQuotes_append hne hu⟩

theorem getLast?_cons_ne {c : Char} {s : List Char} (hc : s = [] → c ≠ '\\')
    (hs : s.getLast? ≠ some '\\') : (c :: s).getLast? ≠ some '\\' := by
  cases s with
  | nil => simpa using hc rfl
  | cons d s => simpa using hs

/-- What is read between quotes does not end with a backslash: the quote behind a backslash is part
of the text. -/
theorem Quotation.getLast?_ne {cs s : List Char} {n : Nat} (h : Quotation cs s n) :
    s.getLast? ≠ some '\\' := by
  induction h with
  | close cs => simp
  | doubled _ ih => exact getLast?_cons_ne (fun _ => by decide) ih
  | escaped _ ih => exact getLast?_cons_ne (fun _ => by decide) ih
  | plain hcs h ih =>
    refine getLast?_cons_ne ?_ ih
    rintro rfl hc
    cases h with
    | close cs => exact hcs hc cs rfl

theorem Quotation.length_le {cs s : List Char} {n : Nat} (h : Quotation cs s n) :
    s.length + 1 ≤ n ∧ n ≤ cs.length := by
  induction h with
  | close cs => simp
  | doubled _ ih => simp only [List.length_cons]; omega
  | escaped _ ih => simp only [List.length_cons]; omega
  | plain _ _ ih => simp only [List.length_cons]; omega

end Token

end Compliance
