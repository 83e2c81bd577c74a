import Compliance.Proofs.Grammar.Unique
import Compliance.Proofs.Token.Layout
import Mathlib.Logic.Relation

/-!
# Compliance.Proofs.Rule.Layout

White space and comments do not change a rule.

* `Relaid`                — a text with layout inserted between two tokens.
* `Relaid.isScanned_iff`  — both texts have the same tokens, or none.
* `Rule.layout_iff`       — where layout may be inserted, and that texts which differ only so are
  the same rule.
-/

namespace Compliance

open Tokens

/-- `t` is `s` with layout inserted between two tokens. A comment does not follow directly behind a
token that takes a minus sign. -/
inductive Relaid : String → String → Prop where
  | intro {s t : String} {ts : List Token} {pre post filler : List Char}
      (hs : s.toList = pre ++ post) (ht : t.toList = pre ++ (filler ++ post))
      (hpos : Token.Reads ts pre post) (hfiller : Token.IsLayout filler)
      (hclear : ¬ (Token.startsComment filler = true ∧ Token.EndsOpen pre post)) : Relaid s t

/-- The tokens of a text without their positions, if it has tokens. -/
def Token.IsScanned (s : String) (ts : List Token) : Prop :=
  ∃ placed : Tokens, Token.scan s = .ok placed ∧ placed.kinds = ts

theorem Relaid.isScanned_iff {s t : String} (h : Relaid s t) (ts : List Token) :
    Token.IsScanned s ts ↔ Token.IsScanned t ts := by
  obtain ⟨hs, ht, hpos, hfiller, hclear⟩ := h
  have hinsert := hpos.insert hfiller fun hc ho => hclear ⟨hc, ho⟩
  rw [← List.append_assoc] at ht
  rw [Token.IsScanned, Token.IsScanned, Token.scan, Token.scan, hs, ht]
  constructor
  · rintro ⟨placed, hscan, rfl⟩
    exact hpos.same_kinds hinsert hscan
  · rintro ⟨placed, hscan, rfl⟩
    exact hinsert.same_kinds hpos hscan

theorem isScanned_iff_of_eqvGen {s t : String} (h : Relation.EqvGen Relaid s t) (ts : List Token) :
    Token.IsScanned s ts ↔ Token.IsScanned t ts := by
  induction h with
  | rel _ _ h => exact h.isScanned_iff ts
  | refl _ => exact Iff.rfl
  | symm _ _ _ ih => exact ih.symm
  | trans _ _ _ _ _ ih ih' => exact ih.trans ih'

theorem Rule.parse_iff_isScanned {s : String} {r : Rule} :
    Rule.parse s = .ok r ↔
      ∃ used, Token.IsScanned s (used ++ [.endOfInput]) ∧ Rule.Derives used r := by
  constructor
  · intro h
    obtain ⟨used, q, hscan, -, hderives⟩ := Rule.derives_of_parse h
    exact ⟨used.kinds, ⟨_, hscan, by simp⟩, hderives⟩
  · rintro ⟨used, ⟨placed, hscan, hkinds⟩, hderives⟩
    obtain ⟨us, vs, rfl, rfl, hvs⟩ := kinds_eq_append hkinds
    obtain ⟨q, rfl⟩ := kinds_eq_singleton hvs
    exact Rule.parse_of_derives hscan hderives

/-- Layout between two tokens leaves their kinds and texts alone, except where it begins with a
comment directly behind an instant or a number of four digits: that takes the comment for its own.
Texts which otherwise differ in layout only are the same rule, with one canonical text and one
digest. -/
theorem Rule.layout_iff (s t : String) :
    (∀ (ts : List Token) (pre post filler : List Char) (placed : Tokens),
      s.toList = pre ++ post → t.toList = pre ++ (filler ++ post) → Token.Reads ts pre post →
      Token.IsLayout filler → Token.scan s = .ok placed →
      (Token.IsScanned t placed.kinds ↔
        ¬ (Token.startsComment filler = true ∧ Token.EndsOpen pre post))) ∧
    (Relation.EqvGen Relaid s t → ∀ r, Rule.parse s = .ok r ↔ Rule.parse t = .ok r) := by
  constructor
  · intro ts pre post filler placed hs ht hpos hfiller hscan
    rw [Token.scan, hs] at hscan
    rw [Token.IsScanned, Token.scan, ht]
    exact Token.same_kinds_iff hpos hfiller hscan
  · intro h r
    rw [Rule.parse_iff_isScanned, Rule.parse_iff_isScanned]
    constructor
    · rintro ⟨used, hused, hderives⟩
      exact ⟨used, (isScanned_iff_of_eqvGen h _).1 hused, hderives⟩
    · rintro ⟨used, hused, hderives⟩
      exact ⟨used, (isScanned_iff_of_eqvGen h _).2 hused, hderives⟩

/-- A comment behind a year becomes part of a date, and one in front of a rule is left out. -/
theorem Rule.layout_iff_year :
    ¬ Token.IsScanned "2024--x\n= a" [.number "2024", .equal, .word "a", .endOfInput] ∧
    Rule.parse "--x\nWHEN a THEN MUST b" =
      .ok ⟨.truthiness (.variable "a"), .consequence (.truthiness (.variable "b"))⟩ := by
  have hfiller : Token.IsLayout ['-', '-', 'x', '\n'] :=
    .comment (show '\n' ∉ ['x'] by decide) .nil
  constructor
  · have hread : Token.lexeme? '2' (['0', '2', '4'] ++ ([] ++ ['=', ' ', 'a'])) =
        .ok (.number "2024", ['0', '2', '4'].length) := by decide +kernel
    have hscan : Token.scan "2024= a" =
        .ok [⟨.number "2024", ⟨1, 1⟩⟩, ⟨.equal, ⟨1, 5⟩⟩, ⟨.word "a", ⟨1, 7⟩⟩,
          ⟨.endOfInput, ⟨1, 8⟩⟩] := by decide +kernel
    have hiff := (Rule.layout_iff "2024= a" "2024--x\n= a").1 [.number "2024"] _ _ _ _ rfl rfl
      (.token hread (.done _)) hfiller hscan
    refine fun hsame => hiff.1 hsame ⟨rfl, ?_⟩
    exact ⟨[], [], _, _, _, rfl, .done _, hread, rfl⟩
  · have hscan : Token.scan "WHEN a THEN MUST b" =
        .ok [⟨.word "WHEN", ⟨1, 1⟩⟩, ⟨.word "a", ⟨1, 6⟩⟩, ⟨.word "THEN", ⟨1, 8⟩⟩,
          ⟨.word "MUST", ⟨1, 13⟩⟩, ⟨.word "b", ⟨1, 18⟩⟩, ⟨.endOfInput, ⟨1, 19⟩⟩] := by
      decide +kernel
    have hparse := Rule.parse_of_read hscan (r := ⟨.truthiness (.variable "a"),
      .consequence (.truthiness (.variable "b"))⟩) rfl
    have hrelaid : Relaid "WHEN a THEN MUST b" "--x\nWHEN a THEN MUST b" := by
      refine .intro rfl rfl (.done _) hfiller ?_
      rintro ⟨-, us, front, t, c, cs, hpre, -⟩
      simp at hpre
    exact ((Rule.layout_iff _ _).2 (.rel _ _ hrelaid) _).1 hparse

end Compliance
