import Compliance.Proofs.Rule.RoundTrip
import Compliance.Proofs.Text.Lines

/-!
# Compliance.Proofs.Rule.Lines

The canonical text of a tree is one line unless a quoted text in it has a line feed.

* `Token.IsLexeme.isOneLine_iff` — no token of several lines but a quoted text.
* `Written.isOneLine_iff`        — texts that spell tokens.
* `Operand.isOneLine_render`, `Condition.isOneLine_render`, `Consequence.isOneLine_render` — trees.
-/

namespace Compliance

open Text (IsOneLine)

/-- No text among the marks has a line feed. -/
def NoneBreaks (marks : List (Option String)) : Prop := ∀ s, some s ∈ marks → IsOneLine s.toList

@[simp] theorem noneBreaks_nil : NoneBreaks [] := fun _ hs => absurd hs List.not_mem_nil

@[simp] theorem noneBreaks_append {ms ns : List (Option String)} :
    NoneBreaks (ms ++ ns) ↔ NoneBreaks ms ∧ NoneBreaks ns := by
  simp only [NoneBreaks, List.mem_append, or_imp, forall_and]

/-! ## Tokens -/

theorem Text.isOneLine_doubleQuotes (cs : List Char) :
    IsOneLine (doubleQuotes cs) ↔ IsOneLine cs := by
  induction cs with
  | nil => rfl
  | cons c cs ih =>
    rw [doubleQuotes]
    split
    · rename_i hc
      obtain rfl : c = '\'' := by simpa using hc
      simp [ih]
    · simp [ih]

theorem Token.isOneLine_takeWord (cs : List Char) : IsOneLine (takeWord cs) := by
  fun_induction takeWord cs with
  | case1 => exact Text.isOneLine_nil
  | case2 c cs hc ih => exact Text.isOneLine_cons.2 ⟨by decide, ih⟩
  | case3 => exact Text.isOneLine_nil
  | case4 c cs _ hc ih =>
    refine Text.isOneLine_cons.2 ⟨?_, ih⟩
    rintro rfl
    cases hc
  | case5 => exact Text.isOneLine_nil

theorem Token.IsMagnitude.isOneLine {cs : List Char} (h : IsMagnitude cs) : IsOneLine cs := by
  obtain ⟨ds, ps, rfl, -, hds, hps⟩ := h
  have hdigits {ds : List Char} (h : ∀ c ∈ ds, c.isDigit = true) : IsOneLine ds :=
    Text.isOneLine_of_forall (p := Char.isDigit) rfl h
  refine Text.isOneLine_append.2 ⟨hdigits hds, ?_⟩
  rcases hps with rfl | ⟨qs, rfl, -, hqs⟩
  · exact Text.isOneLine_nil
  · exact Text.isOneLine_cons.2 ⟨by decide, hdigits hqs⟩

/-- A token is written on one line, a quoted text if it has no line feed. -/
theorem Token.IsLexeme.isOneLine_iff {t : Token} (h : t.IsLexeme) :
    IsOneLine t.spelling ↔ NoneBreaks t.canonicalMarks := by
  have hplain (hline : IsOneLine t.spelling) (hmarks : ∀ s, some s ∉ t.canonicalMarks) :
      IsOneLine t.spelling ↔ NoneBreaks t.canonicalMarks :=
    iff_of_true hline fun s hs => absurd hs (hmarks s)
  cases t with
  | word w =>
    refine hplain ?_ fun s => List.not_mem_nil
    rw [spelling, ← h.2]
    exact isOneLine_takeWord _
  | text s =>
    rw [spelling, Text.isOneLine_cons, Text.isOneLine_append, Text.isOneLine_doubleQuotes]
    simp [NoneBreaks, canonicalMarks]
  | number n =>
    refine hplain ?_ fun s => List.not_mem_nil
    rcases h with hm | ⟨cs, hcs, hm⟩
    · exact hm.isOneLine
    · rw [spelling, hcs]
      exact Text.isOneLine_cons.2 ⟨by decide, hm.isOneLine⟩
  | instant t =>
    exact hplain (Text.isOneLine_of_forall (p := isInstantChar) rfl h.2)
      fun s hs => Option.some_ne_none s (List.mem_singleton.1 hs)
  | endOfInput => exact absurd h id
  | _ => exact hplain (by decide) fun s => List.not_mem_nil

/-! ## Texts of trees -/

theorem Spells.isOneLine_iff {ts : List Token} {cs rest : List Char} (h : Spells ts cs rest) :
    IsOneLine cs ↔ NoneBreaks (ts.flatMap Token.canonicalMarks) ∧ IsOneLine rest := by
  induction h with
  | done rest => simp
  | blank _ ih => simp [ih]
  | token ht _ _ ih => simp [ht.isOneLine_iff, ih, and_assoc]

theorem Written.isOneLine_iff {ts : List Token} {cs : List Char} (h : Written ts cs) :
    IsOneLine cs ↔ NoneBreaks (ts.flatMap Token.canonicalMarks) := by
  have hspells := h [] breaks_nil
  rw [List.append_nil] at hspells
  rw [hspells.isOneLine_iff]
  exact and_iff_left Text.isOneLine_nil

theorem Operand.isOneLine_render {v : Operand} (h : AllLexemes v.tokens) :
    IsOneLine v.render.toList ↔ NoneBreaks v.marks := by
  rw [(Operand.written h).isOneLine_iff, Operand.marks_tokens]

theorem Condition.isOneLine_render {c : Condition} (h : AllLexemes c.tokens) :
    IsOneLine c.render.toList ↔ NoneBreaks c.marks := by
  rw [(Condition.written h).isOneLine_iff, Condition.marks_tokens]

theorem Consequence.isOneLine_render {c : Consequence} (h : AllLexemes c.tokens) :
    IsOneLine c.render.toList ↔ NoneBreaks c.marks := by
  rw [(Consequence.written h).isOneLine_iff, Consequence.marks_tokens]

end Compliance
