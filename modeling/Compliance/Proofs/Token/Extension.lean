import Compliance.Proofs.Rule.Tokens
import Compliance.Proofs.Token.Layout

/-!
# Compliance.Proofs.Token.Extension

Texts whose tokens begin like those of a given text, and go on with given ones.

* `Token.isPlain`     — words, whole numbers and marks that can stand in a text.
* `Reads.behind_line` — what is read in front of a line end does not depend on the next line.
* `exists_extension`  — the first tokens of a text can be followed by any plain ones.
-/

namespace Compliance

open Tokens

namespace Token

/-- Words, whole numbers and marks, as they can stand in a text. -/
def isPlain : Token → Bool
  | .word w => startsWord w.toList && takeWord w.toList == w.toList
  | .number n => !n.toList.isEmpty && n.toList.all Char.isDigit
  | .text _ | .instant _ | .endOfInput => false
  | _ => true

theorem isLexeme_of_isPlain {t : Token} (h : t.isPlain = true) : t.IsLexeme := by
  cases t with
  | word w => simpa [isPlain, IsLexeme] using h
  | number n =>
    simp only [isPlain, Bool.and_eq_true, Bool.not_eq_true', List.isEmpty_eq_false_iff,
      List.all_eq_true] at h
    exact .inl ⟨n.toList, [], by simp, h.1, h.2, .inl rfl⟩
  | text s => cases h
  | instant s => cases h
  | endOfInput => cases h
  | _ => trivial

/-! ## Given tokens behind given ones -/

theorem exists_written {ts : List Token} (h : AllLexemes ts) : ∃ cs, Written ts cs := by
  induction ts with
  | nil => exact ⟨[], fun rest _ => .done rest⟩
  | cons t ts ih =>
    obtain ⟨ht, hts⟩ := allLexemes_cons.1 h
    obtain ⟨cs, hcs⟩ := ih hts
    exact ⟨_, (Written.token ht).blank hcs⟩

theorem Reads.of_append {ts us : List Token} {cs post : List Char} (h : Reads (ts ++ us) cs post) :
    ∃ pre mid, cs = pre ++ mid ∧ Reads ts pre (mid ++ post) := by
  generalize hvs : ts ++ us = vs at h
  induction h generalizing ts with
  | done post =>
    obtain ⟨rfl, -⟩ := List.append_eq_nil_iff.1 hvs
    exact ⟨[], [], rfl, .done _⟩
  | @blank vs c cs post hc _ ih =>
    obtain ⟨pre, mid, rfl, hpre⟩ := ih hvs
    exact ⟨c :: pre, mid, rfl, .blank hc hpre⟩
  | @comment vs note cs post hnote hend _ ih =>
    obtain ⟨pre, mid, rfl, hpre⟩ := ih hvs
    rw [List.append_assoc] at hend
    exact ⟨'-' :: '-' :: (note ++ pre), mid, by simp, .comment hnote hend hpre⟩
  | @token t vs c cs pre post ht _ ih =>
    cases ts with
    | nil => exact ⟨[], _, rfl, .done _⟩
    | cons u ts =>
      obtain ⟨rfl, htail⟩ := List.cons.inj hvs
      obtain ⟨pre, mid, rfl, hpre⟩ := ih htail
      rw [List.append_assoc] at ht
      exact ⟨c :: (cs ++ pre), mid, by simp, .token ht hpre⟩

/-- A line end closes tokens and comments alike, so the text may go on there in any way. -/
theorem Reads.behind_line {ts : List Token} {pre post : List Char} (h : Reads ts pre post)
    (ds : List Char) : Reads ts pre ('\n' :: ds) := by
  induction h with
  | done => exact .done _
  | blank hc _ ih => exact .blank hc ih
  | @comment ts note pre post hnote hend _ ih =>
    refine .comment hnote ?_ ih
    cases pre with
    | nil =>
      rintro d es ⟨⟩
      rfl
    | cons d pre =>
      rintro e es ⟨⟩
      exact hend d _ rfl
  | @token t ts c cs pre post ht h ih =>
    refine .token (lexeme?_of_closesLike ht ?_) ih
    cases pre with
    | nil => exact .blank (by decide) _
    | cons d pre => exact .same h.head_ne rfl _

/-- The first tokens of a text, with any plain ones behind them, are all tokens of some text. -/
theorem exists_extension {source : String} {placed : Tokens} {ts us more : List Token}
    (hscan : scan source = .ok placed) (hplaced : placed.kinds = ts ++ us)
    (hts : .endOfInput ∉ ts) (hmore : more.all isPlain = true) :
    ∃ (source' : String) (used : Tokens) (q : Position),
      scan source' = .ok (used ++ [⟨.endOfInput, q⟩]) ∧ used.kinds = ts ++ more := by
  obtain ⟨all, hreads, hall⟩ := exists_reads hscan
  obtain ⟨us, rfl⟩ : ∃ us, all = ts ++ us := by
    rw [hall] at hplaced
    rcases List.append_eq_append_iff.1 hplaced with ⟨mid, rfl, hmid⟩ | ⟨us, rfl, -⟩
    · cases mid with
      | nil => exact ⟨[], by simp⟩
      | cons t mid =>
        obtain ⟨rfl, -⟩ := List.cons.inj hmid
        exact absurd (by simp) hts
    · exact ⟨us, rfl⟩
  obtain ⟨pre, mid, -, hpre⟩ := hreads.of_append
  have hplain : ∀ t ∈ more, t.isPlain = true := List.all_eq_true.1 hmore
  obtain ⟨cs, hcs⟩ := exists_written fun t ht => isLexeme_of_isPlain (hplain t ht)
  have hspells := hcs [] breaks_nil
  obtain ⟨used, q, rfl, hused⟩ := (hpre.behind_line cs).scan Position.start
  obtain ⟨behind, q', rfl, hbehind⟩ := hspells.scan
    (fun s hs => absurd (hplain _ hs) (by simp [isPlain])) (q.step '\n')
  have hline : scanFrom q ('\n' :: cs) = scanFrom (q.step '\n') cs := by
    rw [scanFrom, startsComment_eq_false (by decide), if_neg (by decide), if_pos (by decide)]
  rw [List.append_nil, scanFrom] at hbehind
  refine ⟨String.ofList (pre ++ '\n' :: cs), used ++ behind, q', ?_, kinds_append _ _⟩
  rw [Token.scan, String.toList_ofList, hused, hline, hbehind, List.append_assoc]
  rfl

end Token

end Compliance
