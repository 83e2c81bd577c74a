import Compliance.Proofs.Except
import Compliance.Proofs.Grammar
import Compliance.Proofs.Text.Blank
import Compliance.Proofs.Token.Lexeme

/-!
# Compliance.Proofs.Token.Spelling

Texts that spell tokens.

* `Spells`                    — a text spells tokens and goes on with some rest.
* `Written`                   — a text spells tokens in front of any break.
* `Spells.comparable`         — of two token lists that one text spells, one goes on with the other.
* `Spells.scan`               — what is spelled is scanned, if no text hides a quote.
* `Spells.scan_hidesQuote`    — a text that hides a quote is scanned as another one.
* `Token.isLexeme_of_scanFrom` — all that is scanned, up to the end of input, are lexemes.
-/

namespace Compliance

open Token

/-! ## Spelled tokens -/

/-- The tokens `ts`, with blanks between them, stand in front of `rest`. -/
inductive Spells : List Token → List Char → List Char → Prop where
  | done (rest : List Char) : Spells [] rest rest
  | blank {ts : List Token} {cs rest : List Char} (h : Spells ts cs rest) :
      Spells ts (' ' :: cs) rest
  | token {t : Token} {ts : List Token} {cs rest : List Char} (ht : t.IsLexeme)
      (hb : t.isBracket = true ∨ Breaks cs) (h : Spells ts cs rest) :
      Spells (t :: ts) (t.spelling ++ cs) rest

theorem Spells.trans {ts us : List Token} {cs mid rest : List Char} (h : Spells ts cs mid)
    (h' : Spells us mid rest) : Spells (ts ++ us) cs rest := by
  induction h with
  | done mid => exact h'
  | blank _ ih => exact .blank (ih h')
  | token ht hb _ ih => exact .token ht hb (ih h')

/-- The text spells the tokens, whatever follows behind a break. -/
def Written (ts : List Token) (cs : List Char) : Prop :=
  ∀ rest, Breaks rest → Spells ts (cs ++ rest) rest

namespace Written

variable {ts us : List Token} {cs ds : List Char}

theorem token {t : Token} (ht : t.IsLexeme) : Written [t] t.spelling :=
  fun rest hrest => .token ht (.inr hrest) (.done rest)

/-- Two texts with a blank between them. -/
theorem blank (h : Written ts cs) (h' : Written us ds) : Written (ts ++ us) (cs ++ ' ' :: ds) := by
  intro rest hrest
  rw [List.append_assoc, List.cons_append]
  exact (h _ (breaks_cons rfl _)).trans (.blank (h' rest hrest))

theorem blank_cons (h : Written ts cs) : Written ts (' ' :: cs) :=
  fun rest hrest => .blank (h rest hrest)

/-- A bracket or comma in front of a text. -/
theorem bracket {t : Token} (ht : t.IsLexeme) (hb : t.isBracket = true) (h : Written us ds) :
    Written (t :: us) (t.spelling ++ ds) := by
  intro rest hrest
  rw [List.append_assoc]
  exact .token ht (.inl hb) (h rest hrest)

/-- A text that begins with a break directly follows another one. -/
theorem append {c : Char} (hc : isBreak c = true) (h : Written ts cs)
    (h' : Written us (c :: ds)) : Written (ts ++ us) (cs ++ c :: ds) := by
  intro rest hrest
  rw [List.append_assoc, List.cons_append]
  exact (h _ (breaks_cons hc _)).trans (h' rest hrest)

end Written

/-! ## Unique spelling -/

theorem Token.startsComment_eq_false {c : Char} (hc : c ≠ '-') (cs : List Char) :
    startsComment (c :: cs) = false := by
  rw [startsComment.eq_def]
  split
  · rename_i heq
    exact absurd (List.cons.inj heq).1 hc
  · rfl

theorem Token.isBlank_of_isWordStart {c : Char} (h : isWordStart c = true) :
    Text.isBlank c = false := by
  have hrange : 65 ≤ c.toNat ∧ c.toNat ≤ 122 := toNat_of_isWordStart h
  simp [Text.isBlank]
  omega

/-- A spelling begins neither with a blank nor like a comment. -/
theorem Token.spelling_head {t : Token} (ht : t.IsLexeme) :
    ∃ c cs, t.spelling = c :: cs ∧ Text.isBlank c = false ∧
      ∀ rest, startsComment (c :: (cs ++ rest)) = false := by
  have digit {c : Char} {cs : List Char} (hc : c.isDigit = true) :
      Text.isBlank c = false ∧ ∀ rest, startsComment (c :: (cs ++ rest)) = false :=
    ⟨Text.isBlank_of_isDigit hc,
      fun _ => startsComment_eq_false (Text.ne_sign_of_isDigit hc).1 _⟩
  cases t with
  | word w =>
    obtain ⟨hstart, -⟩ := ht
    cases hw : w.toList with
    | nil => rw [hw] at hstart; cases hstart
    | cons c cs =>
      rw [hw] at hstart
      refine ⟨c, cs, hw, isBlank_of_isWordStart hstart, fun _ => startsComment_eq_false ?_ _⟩
      rintro rfl
      cases hstart
  | number n =>
    rcases ht with hm | ⟨cs, hn, hm⟩
    · obtain ⟨c, ds, hn, hc⟩ := hm.head
      exact ⟨c, ds, hn, digit hc⟩
    · obtain ⟨c, ds, rfl, hc⟩ := hm.head
      refine ⟨'-', c :: ds, hn, rfl, fun rest => ?_⟩
      rw [startsComment.eq_def]
      split
      · rename_i heq
        cases heq
        cases hc
      · rfl
  | instant t =>
    obtain ⟨hdate, hall⟩ := ht
    have hend : ∀ c cs, ([] : List Char) = c :: cs → isInstantChar c = false := nofun
    obtain ⟨c, cs, hcs, hc, -⟩ := lexeme?_instant hdate hall hend
    exact ⟨c, cs, hcs, digit hc⟩
  | endOfInput => exact ht.elim
  | _ => exact ⟨_, _, rfl, rfl, fun _ => startsComment_eq_false (by decide) _⟩

theorem Token.spelling_ne_nil {t : Token} (ht : t.IsLexeme) : t.spelling ≠ [] := by
  obtain ⟨c, cs, h, -⟩ := spelling_head ht
  simp [h]

/-- Doubled quotes end where a single quote stands. -/
theorem doubleQuotes_append_inj {s t cs ds : List Char} (hcs : Breaks cs) (hds : Breaks ds)
    (h : doubleQuotes s ++ '\'' :: cs = doubleQuotes t ++ '\'' :: ds) : s = t ∧ cs = ds := by
  have single {u us : List Char} {b : List Char} (hb : Breaks b)
      (hu : '\'' :: b = doubleQuotes ('\'' :: u) ++ us) : False := by
    rw [doubleQuotes_quote] at hu
    exact hb.head (· ≠ '\'') (by decide) _ _ (List.cons.inj hu).2 rfl
  induction s generalizing t with
  | nil =>
    cases t with
    | nil => exact ⟨rfl, (List.cons.inj h).2⟩
    | cons d t =>
      by_cases hd : d = '\''
      · subst hd
        exact (single hcs h).elim
      · rw [doubleQuotes_cons hd] at h
        exact absurd (List.cons.inj h).1.symm hd
  | cons c s ih =>
    by_cases hc : c = '\''
    · subst hc
      cases t with
      | nil => exact (single hds h.symm).elim
      | cons d t =>
        by_cases hd : d = '\''
        · subst hd
          obtain ⟨rfl, hrest⟩ := ih (List.cons.inj (List.cons.inj h).2).2
          exact ⟨rfl, hrest⟩
        · rw [doubleQuotes_cons hd] at h
          exact absurd (List.cons.inj h).1.symm hd
    · rw [doubleQuotes_cons hc] at h
      cases t with
      | nil => exact absurd (List.cons.inj h).1 hc
      | cons d t =>
        by_cases hd : d = '\''
        · subst hd
          exact absurd (List.cons.inj h).1 hc
        · rw [doubleQuotes_cons hd] at h
          obtain ⟨rfl, htail⟩ := List.cons.inj h
          obtain ⟨rfl, hrest⟩ := ih htail
          exact ⟨rfl, hrest⟩

theorem Token.eq_text_of_lexeme? {cs : List Char} {t : Token} {n : Nat}
    (h : lexeme? '\'' cs = .ok (t, n)) : ∃ s, t = .text s := by
  rw [lexeme?, if_pos (by decide)] at h
  split at h
  · cases h
  · cases h
    exact ⟨_, rfl⟩

/-- One text does not spell two tokens at the same place. -/
theorem Token.spelling_inj {t u : Token} {cs ds : List Char} (ht : t.IsLexeme) (hu : u.IsLexeme)
    (hcs : t.isBracket = true ∨ Breaks cs) (hds : u.isBracket = true ∨ Breaks ds)
    (h : t.spelling ++ cs = u.spelling ++ ds) : t = u ∧ cs = ds := by
  by_cases htext : ∃ s, t = .text s
  · obtain ⟨s, rfl⟩ := htext
    by_cases hutext : ∃ r, u = .text r
    · obtain ⟨r, rfl⟩ := hutext
      simp only [spelling, List.cons_append, List.append_assoc, List.nil_append,
        List.cons.injEq, true_and] at h
      obtain ⟨hs, rfl⟩ := doubleQuotes_append_inj (hcs.resolve_left Bool.false_ne_true)
        (hds.resolve_left Bool.false_ne_true) h
      exact ⟨by rw [String.toList_inj.1 hs], rfl⟩
    · obtain ⟨d, y, hy, hread⟩ := lexeme?_spelling hu (fun r hr => absurd ⟨r, hr⟩ hutext) hds
      rw [hy] at h
      obtain ⟨rfl, -⟩ := List.cons.inj h
      exact absurd (eq_text_of_lexeme? hread) hutext
  · obtain ⟨c, x, hx, hread⟩ := lexeme?_spelling ht (fun s hs => absurd ⟨s, hs⟩ htext) hcs
    by_cases hutext : ∃ r, u = .text r
    · obtain ⟨r, rfl⟩ := hutext
      rw [hx] at h
      obtain ⟨rfl, -⟩ := List.cons.inj h
      exact absurd (eq_text_of_lexeme? hread) htext
    · obtain ⟨d, y, hy, hread'⟩ := lexeme?_spelling hu (fun r hr => absurd ⟨r, hr⟩ hutext) hds
      have heq := h
      rw [hx, hy] at heq
      obtain ⟨rfl, htail⟩ := List.cons.inj heq
      simp only [List.append_eq] at htail
      rw [htail, hread'] at hread
      simp only [Except.ok.injEq, Prod.mk.injEq] at hread
      obtain ⟨rfl, -⟩ := hread
      exact ⟨rfl, List.append_cancel_left h⟩

/-- Of two lists of tokens that stand at the start of one text, one goes on with the other. -/
theorem Spells.comparable {ts us : List Token} {cs rest rest' : List Char} (h : Spells ts cs rest)
    (h' : Spells us cs rest') :
    (∃ more, us = ts ++ more ∧ Spells more rest rest') ∨
      ∃ more, ts = us ++ more ∧ Spells more rest' rest := by
  induction h generalizing us with
  | done rest => exact .inl ⟨us, rfl, h'⟩
  | @blank ts cs rest h ih =>
    generalize htext : ' ' :: cs = text at h'
    cases h' with
    | done => exact .inr ⟨ts, rfl, htext ▸ .blank h⟩
    | blank h' =>
      cases htext
      exact ih h'
    | token hu _ _ =>
      obtain ⟨c, x, hx, hblank, -⟩ := spelling_head hu
      rw [hx] at htext
      cases htext
      cases hblank
  | @token t ts cs rest ht hb h ih =>
    generalize htext : t.spelling ++ cs = text at h'
    cases h' with
    | done => exact .inr ⟨t :: ts, rfl, htext ▸ .token ht hb h⟩
    | blank h' =>
      obtain ⟨c, x, hx, hblank, -⟩ := spelling_head ht
      rw [hx] at htext
      cases htext
      cases hblank
    | token hu hb' h' =>
      obtain ⟨rfl, rfl⟩ := spelling_inj ht hu hb hb' htext
      rcases ih h' with ⟨more, rfl, hmore⟩ | ⟨more, rfl, hmore⟩
      · exact .inl ⟨more, rfl, hmore⟩
      · exact .inr ⟨more, rfl, hmore⟩

theorem Spells.eq_nil {ts : List Token} {rest : List Char} (h : Spells ts [] rest) :
    ts = [] ∧ rest = [] := by
  generalize htext : [] = text at h
  cases h with
  | done => exact ⟨rfl, rfl⟩
  | blank => cases htext
  | token ht =>
    have hnil := (List.append_eq_nil_iff.1 htext.symm).1
    exact absurd hnil (spelling_ne_nil ht)

/-- A text spells one list of tokens. -/
theorem Spells.unique {ts us : List Token} {cs : List Char} (h : Spells ts cs [])
    (h' : Spells us cs []) : ts = us := by
  rcases h.comparable h' with ⟨more, rfl, hmore⟩ | ⟨more, rfl, hmore⟩
  · rw [hmore.eq_nil.1, List.append_nil]
  · rw [hmore.eq_nil.1, List.append_nil]

/-! ## Scanning -/

theorem Token.scanFrom_blank (p : Position) (cs : List Char) :
    scanFrom p (' ' :: cs) = scanFrom (p.step ' ') cs := by
  rw [scanFrom, startsComment_eq_false (by decide), if_neg (by decide), if_pos (by decide)]

theorem Token.scanFrom_token {t : Token} (ht : t.IsLexeme)
    (hclean : ∀ s, t = .text s → ¬ HidesQuote s.toList) {rest : List Char}
    (h : t.isBracket = true ∨ Breaks rest) (p : Position) :
    scanFrom p (t.spelling ++ rest) =
      (scanFrom (p.behind t.spelling) rest).map (⟨t, p⟩ :: ·) := by
  obtain ⟨c, cs, hcs, hblank, hcomment⟩ := spelling_head ht
  obtain ⟨d, ds, hds, hread⟩ := lexeme?_spelling ht hclean h
  obtain ⟨rfl, rfl⟩ := List.cons.inj (hcs.symm.trans hds)
  rw [hcs, List.cons_append, scanFrom, hcomment, if_neg (by decide), hblank, if_neg (by decide),
    hread]
  simp only [List.take_left, List.drop_left]
  rfl

/-- What is spelled is scanned, if no text hides a quote. -/
theorem Spells.scan {ts : List Token} {cs rest : List Char} (h : Spells ts cs rest)
    (hclean : ∀ s, .text s ∈ ts → ¬ HidesQuote s.toList) (p : Position) :
    ∃ (used : Tokens) (q : Position), used.kinds = ts ∧
      scanFrom p cs = (scanFrom q rest).map (used ++ ·) := by
  induction h generalizing p with
  | done rest =>
    refine ⟨[], p, rfl, ?_⟩
    cases scanFrom p rest <;> rfl
  | blank _ ih =>
    obtain ⟨used, q, hused, hscan⟩ := ih hclean (p.step ' ')
    exact ⟨used, q, hused, by rw [scanFrom_blank, hscan]⟩
  | @token t ts cs rest ht hb _ ih =>
    obtain ⟨used, q, rfl, hscan⟩ :=
      ih (fun s hs => hclean s (List.mem_cons_of_mem _ hs)) (p.behind t.spelling)
    refine ⟨⟨t, p⟩ :: used, q, rfl, ?_⟩
    rw [scanFrom_token ht (fun s hs => hclean s (hs ▸ List.mem_cons_self)) hb, hscan]
    cases scanFrom q rest <;> rfl

theorem Spells.of_append {ts us : List Token} {cs rest : List Char}
    (h : Spells (ts ++ us) cs rest) : ∃ mid, Spells ts cs mid ∧ Spells us mid rest := by
  generalize hvs : ts ++ us = vs at h
  induction h generalizing ts with
  | done rest =>
    obtain ⟨rfl, rfl⟩ := List.append_eq_nil_iff.1 hvs
    exact ⟨rest, .done rest, .done rest⟩
  | blank _ ih =>
    obtain ⟨mid, h, h'⟩ := ih hvs
    exact ⟨mid, .blank h, h'⟩
  | @token t vs cs rest ht hb h ih =>
    cases ts with
    | nil =>
      rw [List.nil_append] at hvs
      subst hvs
      exact ⟨_, .done _, .token ht hb h⟩
    | cons u ts =>
      obtain ⟨rfl, htail⟩ := List.cons.inj hvs
      obtain ⟨mid, h, h'⟩ := ih htail
      exact ⟨mid, .token ht hb h, h'⟩

theorem Spells.scan_text {s : String} {post : List Token} {cs rest : List Char}
    (h : Spells (.text s :: post) cs rest) (hs : HidesQuote s.toList) {p : Position}
    {placed : Tokens} (hscan : scanFrom p cs = .ok placed) :
    ∃ r q more, placed = ⟨.text r, q⟩ :: more ∧ r ≠ s := by
  generalize hts : Token.text s :: post = ts at h
  induction h generalizing p with
  | done => cases hts
  | blank _ ih =>
    rw [scanFrom_blank] at hscan
    exact ih hscan hts
  | token ht hb _ _ =>
    obtain ⟨rfl, rfl⟩ := List.cons.inj hts
    simp only [spelling, List.cons_append, List.append_assoc, List.nil_append] at hscan
    rw [scanFrom, startsComment_eq_false (by decide), if_neg (by decide), if_neg (by decide),
      lexeme?, if_pos (by decide)] at hscan
    split at hscan
    · cases hscan
    · rename_i r n hread
      split at hread
      · cases hread
      · rename_i t m hq
        cases hread
        have hne := ne_of_quoted?_doubleQuotes hs hq
        obtain ⟨more, -, rfl⟩ := Except.map_eq_ok hscan
        refine ⟨String.ofList t, p, more, rfl, ?_⟩
        rintro rfl
        exact hne String.toList_ofList.symm

/-- A text that hides a quote is scanned as another one. -/
theorem Spells.scan_hidesQuote {pre post : List Token} {s : String} {cs rest : List Char}
    (h : Spells (pre ++ .text s :: post) cs rest)
    (hclean : ∀ r, .text r ∈ pre → ¬ HidesQuote r.toList) (hs : HidesQuote s.toList)
    {p : Position} {placed : Tokens} (hscan : scanFrom p cs = .ok placed) :
    ∃ r more, placed.kinds = pre ++ .text r :: more ∧ r ≠ s := by
  obtain ⟨mid, hpre, hpost⟩ := h.of_append
  obtain ⟨used, q, rfl, hused⟩ := hpre.scan hclean p
  rw [hused] at hscan
  obtain ⟨behind, hbehind, rfl⟩ := Except.map_eq_ok hscan
  obtain ⟨r, _, more, rfl, hne⟩ := hpost.scan_text hs hbehind
  exact ⟨r, Tokens.kinds more, by simp, hne⟩

/-- All that is scanned, up to the end of input, are lexemes. -/
theorem Token.isLexeme_of_scanFrom {p : Position} {cs : List Char} {placed : Tokens}
    (h : scanFrom p cs = .ok placed) :
    ∃ (used : Tokens) (q : Position), placed = used ++ [⟨.endOfInput, q⟩] ∧
      ∀ t ∈ used.kinds, t.IsLexeme := by
  induction p, cs using scanFrom.induct generalizing placed with
  | case1 p =>
    rw [scanFrom] at h
    cases h
    exact ⟨[], p, rfl, by simp⟩
  | case2 p c cs hcomment ih =>
    rw [scanFrom, if_pos hcomment] at h
    exact ih h
  | case3 p c cs hcomment hblank ih =>
    rw [scanFrom, if_neg hcomment, if_pos hblank] at h
    exact ih h
  | case4 p c cs hcomment hblank fault hread =>
    rw [scanFrom, if_neg hcomment, if_neg hblank, hread] at h
    cases h
  | case5 p c cs hcomment hblank t n hread ih =>
    rw [scanFrom, if_neg hcomment, if_neg hblank, hread] at h
    obtain ⟨behind, hbehind, rfl⟩ := Except.map_eq_ok h
    obtain ⟨used, q, rfl, hused⟩ := ih hbehind
    refine ⟨⟨t, p⟩ :: used, q, rfl, ?_⟩
    intro u hu
    rcases List.mem_cons.1 hu with rfl | hu
    · exact isLexeme_of_lexeme? hread
    · exact hused u hu

/-- A text that is scanned is shorter, by its two quotes at least, than what it is scanned from. -/
theorem Token.length_of_scanFrom_text {p q : Position} {cs : List Char} {s : String}
    {more : Tokens} (h : scanFrom p cs = .ok (⟨.text s, q⟩ :: more)) :
    s.toList.length + 2 ≤ cs.length := by
  induction p, cs using scanFrom.induct with
  | case1 p =>
    rw [scanFrom] at h
    cases h
  | case2 p c cs hcomment ih =>
    rw [scanFrom, if_pos hcomment] at h
    have hlen := ih h
    have hdrop := (List.dropWhile_sublist (· != '\n') (l := cs)).length_le
    simp only [List.length_cons]
    omega
  | case3 p c cs hcomment hblank ih =>
    rw [scanFrom, if_neg hcomment, if_pos hblank] at h
    have hlen := ih h
    simp only [List.length_cons]
    omega
  | case4 p c cs hcomment hblank fault hread =>
    rw [scanFrom, if_neg hcomment, if_neg hblank, hread] at h
    cases h
  | case5 p c cs hcomment hblank t n hread ih =>
    rw [scanFrom, if_neg hcomment, if_neg hblank, hread] at h
    obtain ⟨behind, -, heq⟩ := Except.map_eq_ok h
    cases heq
    have hlen := (quotation_of_lexeme? hread).length_le
    simp only [List.length_cons]
    omega

end Compliance
