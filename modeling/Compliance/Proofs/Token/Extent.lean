import Compliance.Proofs.Token.Boundary

/-!
# Compliance.Proofs.Token.Extent

How far lexemes go, and where none begins.

* `GoesOn`         — a dot behind a token that belongs to it.
* `lexeme?_iff`    — which characters are read as which token.
* `Unclosed`       — a text between quotes that does not end.
* `Offends`        — a place where no token begins, with the reason.
* `offends_iff`    — these are the places where scanning stops.
-/

namespace Compliance

namespace Token

/-! ## Lexemes -/

/-- A dot directly behind the token belongs to it, with what stands behind the dot: a word goes on
with a word, and a number without places goes on with digits. -/
def GoesOn : Token → List Char → Prop
  | .word _, '.' :: d :: _ => isWordChar d = true
  | .number n, '.' :: d :: _ => '.' ∉ n.toList ∧ d.isDigit = true
  | _, _ => False

theorem isNumeral_cons_iff {c : Char} {cs : List Char} :
    IsNumeral (c :: cs) ↔ IsMagnitude (c :: cs) ∨ c = '-' ∧ IsMagnitude cs := by
  simp [IsNumeral, and_assoc]

theorem of_isWordChar_eq_false {c : Char} (h : isWordChar c = false) :
    c.isDigit = false ∧ isWordStart c = false := by
  simp only [isWordChar, Char.isAlphanum, Bool.or_eq_false_iff] at h
  simp [isWordStart, h]

theorem not_goesOn_of_mark? {cs : List Char} {t : Token} {n : Nat} (h : mark? cs = some (t, n))
    (rest : List Char) : ¬ t.GoesOn rest := by
  rw [mark?.eq_def] at h
  split at h <;> cases h <;> simp [GoesOn]

theorem takeWord_eq_nil_iff {w : String} {rest : List Char}
    (hend : ∀ d ds, rest = d :: ds → isWordChar d = false) :
    takeWord rest = [] ↔ ¬ GoesOn (.word w) rest := by
  cases rest with
  | nil => simp [takeWord, GoesOn]
  | cons c cs =>
    have hword := hend c cs rfl
    by_cases hc : c = '.'
    · subst hc
      cases cs with
      | nil => simp [takeWord, GoesOn, hword]
      | cons d ds => simp [takeWord, GoesOn]
    · rw [takeWord, hword]
      · simp [GoesOn, hc]
      · intro d ds hdot
        exact absurd hdot hc

theorem takePlaces_of_not_goesOn {n : String} {rest : List Char} (hdot : '.' ∉ n.toList)
    (h : ¬ GoesOn (.number n) rest) : takePlaces rest = [] := by
  rw [takePlaces.eq_def]
  split
  · rename_i cs
    cases cs with
    | nil => rfl
    | cons d ds =>
      have hd : d.isDigit = false := by simpa [GoesOn, hdot] using h
      simp [hd]
  · rfl

/-- Digits with places behind a dot are one number, longer than the digits. -/
theorem lexeme?_of_goesOn {c d : Char} {cs ds : List Char} (hn : IsNumeral (c :: cs))
    (hdot : '.' ∉ c :: cs) (hd : d.isDigit = true)
    (hdate : startsDate (c :: (cs ++ '.' :: d :: ds)) = false) {t : Token} {n : Nat}
    (h : lexeme? c (cs ++ '.' :: d :: ds) = .ok (t, n)) : cs.length < n := by
  have hdigits : ∀ e ∈ (d :: ds).takeWhile Char.isDigit, e.isDigit = true :=
    List.all_eq_true.1 List.all_takeWhile
  have hne : (d :: ds).takeWhile Char.isDigit ≠ [] := by simp [hd]
  have more {m : List Char} (hm : IsMagnitude m) (hmdot : '.' ∉ m) :
      IsMagnitude (m ++ '.' :: (d :: ds).takeWhile Char.isDigit) := by
    obtain ⟨es, ps, rfl, hes, hall, hps⟩ := hm
    rcases hps with rfl | ⟨qs, rfl, -, -⟩
    · exact ⟨es, _, by simp, hes, hall, .inr ⟨_, rfl, hne, hdigits⟩⟩
    · simp at hmdot
  have hlonger : IsNumeral (c :: (cs ++ '.' :: (d :: ds).takeWhile Char.isDigit)) := by
    rcases hn with hm | ⟨m, hm, hmag⟩
    · exact .inl (more hm hdot)
    · cases hm
      exact .inr ⟨_, rfl, more hmag fun hmem => hdot (List.mem_cons_of_mem _ hmem)⟩
  have hsplit : cs ++ '.' :: d :: ds = cs ++ '.' :: (d :: ds).takeWhile Char.isDigit ++
      (d :: ds).dropWhile Char.isDigit := by
    rw [List.append_assoc, List.cons_append, List.takeWhile_append_dropWhile]
  rw [hsplit] at hdate h
  rw [lexeme?_numeral hlonger hdate head_dropWhile fun hmem => absurd hmem (by simp)] at h
  split at h
  · cases h
  · cases h
    simp

theorem not_goesOn_of_lexeme? {t : Token} {c : Char} {cs rest : List Char}
    (h : lexeme? c (cs ++ rest) = .ok (t, cs.length)) : ¬ t.GoesOn rest := by
  cases lexeme_of_lexeme? h with
  | text => simp [GoesOn]
  | instant => simp [GoesOn]
  | mark hmark => exact not_goesOn_of_mark? hmark rest
  | word hc htake hend =>
    rw [lexeme?_word hc, ← List.cons_append, takeWord_append_eq htake] at h
    rw [← takeWord_eq_nil_iff hend]
    simpa using h
  | number hdigits hdate hend =>
    rw [GoesOn.eq_def]
    split
    · rename_i heq
      cases heq
    · rename_i n d ds heq
      cases heq
      rintro ⟨hdot, hd⟩
      rw [String.toList_ofList] at hdot
      have hlt := lexeme?_of_goesOn (isNumeral_cons_iff.2 hdigits) hdot hd hdate h
      omega
    · exact id

/-- The characters that are read as a token are its lexeme, as far as it goes. -/
theorem lexeme?_iff {t : Token} {c : Char} {cs rest : List Char} :
    lexeme? c (cs ++ rest) = .ok (t, cs.length) ↔ Lexeme c cs rest t ∧ ¬ t.GoesOn rest := by
  constructor
  · intro h
    exact ⟨lexeme_of_lexeme? h, not_goesOn_of_lexeme? h⟩
  · rintro ⟨hlexeme, hgoes⟩
    cases hlexeme with
    | text hc hq => exact lexeme?_text hq hc
    | instant hdate hall hend =>
      rw [← String.toList_ofList (l := c :: cs)] at hdate hall
      obtain ⟨d, ds, heq, -, hread⟩ := lexeme?_instant hdate hall hend
      rw [String.toList_ofList] at heq
      cases heq
      exact hread
    | number hdigits hdate hend =>
      have hdigit : ∀ d ds, rest = d :: ds → d.isDigit = false :=
        fun d ds hrest => (of_isWordChar_eq_false (hend d ds hrest)).1
      have hplaces : '.' ∉ c :: cs → takePlaces rest = [] := by
        intro hdot
        exact takePlaces_of_not_goesOn (by rwa [String.toList_ofList]) hgoes
      have hstart : startsWord rest = false := by
        cases rest with
        | nil => rfl
        | cons d ds => exact (of_isWordChar_eq_false (hend d ds rfl)).2
      rw [lexeme?_numeral (isNumeral_cons_iff.2 hdigits) hdate hdigit hplaces, hstart]
      rfl
    | word hc htake hend =>
      rw [lexeme?_word hc, ← List.cons_append, takeWord_append_eq htake,
        (takeWord_eq_nil_iff hend).2 hgoes, List.append_nil]
      rfl
    | mark hmark =>
      obtain ⟨hstart, hquote, hminus, hdigit⟩ := mark?_start hmark
      exact lexeme?_mark hmark hstart hquote hminus hdigit

/-! ## Where no token begins -/

/-- Up to its end, each quote of the text is one of two, or stands behind a backslash. -/
inductive Unclosed : List Char → Prop where
  | nil : Unclosed []
  | doubled {cs : List Char} (h : Unclosed cs) : Unclosed ('\'' :: '\'' :: cs)
  | escaped {cs : List Char} (h : Unclosed cs) : Unclosed ('\\' :: '\'' :: cs)
  | plain {c : Char} {cs : List Char} (hc : c ≠ '\'') (hcs : c = '\\' → ∀ t, cs ≠ '\'' :: t)
      (h : Unclosed cs) : Unclosed (c :: cs)

theorem unclosed_iff {cs : List Char} : Unclosed cs ↔ quoted? cs = none := by
  constructor
  · intro h
    induction h with
    | nil => rfl
    | doubled _ ih => rw [quoted?_quote, ih, Option.map_none]
    | escaped _ ih => rw [quoted?, ih, Option.map_none]
    | plain hc hcs _ ih => rw [quoted?_cons hc hcs, ih, Option.map_none]
  · intro h
    induction cs using quoted?.induct with
    | case1 => exact .nil
    | case2 cs ih =>
      rw [quoted?, Option.map_eq_none_iff] at h
      exact .doubled (ih h)
    | case3 cs ih =>
      rw [quoted?, Option.map_eq_none_iff] at h
      exact .escaped (ih h)
    | case4 c cs hdoubled hescaped hc =>
      rw [quoted?, if_pos hc] at h
      · cases h
      · exact hdoubled
      · exact hescaped
    | case5 c cs hdoubled hescaped hc ih =>
      rw [quoted?, if_neg hc, Option.map_eq_none_iff] at h
      · refine .plain (by simpa using hc) ?_ (ih h)
        rintro rfl t rfl
        exact hescaped t rfl rfl
      · exact hdoubled
      · exact hescaped

/-- No token begins with `c` in front of `cs`: a quote opens a text that does not end, a number runs
into a letter, or the character begins nothing. -/
inductive Offends (c : Char) (cs : List Char) : Fault → Prop where
  | unclosed (hc : c = '\'') (h : Unclosed cs) : Offends c cs .unterminatedText
  | letter {n : List Char} {d : Char} {ds : List Char} (hn : IsNumeral (c :: n))
      (hcs : cs = n ++ d :: ds) (hd : isWordStart d = true) :
      Offends c cs (.letterAfterNumber (String.ofList (c :: n)))
  | stray (hblank : Text.isBlank c = false) (hcomment : startsComment (c :: cs) = false)
      (hquote : c ≠ '\'') (hnumber : startsNumber (c :: cs) = false)
      (hword : isWordStart c = false) (hmark : mark? (c :: cs) = none) :
      Offends c cs (.unexpectedCharacter c)

theorem startsDate_of_not_startsNumber {c : Char} {cs : List Char}
    (h : startsNumber (c :: cs) = false) : startsDate (c :: cs) = false := by
  rw [← Bool.not_eq_true]
  intro hdate
  have hc := startsDate_head hdate
  obtain ⟨hminus, -⟩ := Text.ne_sign_of_isDigit hc
  rw [startsNumber.eq_def] at h
  split at h
  · rename_i heq
    exact absurd (List.cons.inj heq).1 hminus
  · rename_i heq
    rw [← (List.cons.inj heq).1, hc] at h
    cases h
  · rename_i heq
    cases heq

theorem isDigit_of_isWordStart {c : Char} (h : isWordStart c = true) : c.isDigit = false := by
  obtain ⟨hlow, -⟩ := toNat_of_isWordStart h
  rw [← Bool.not_eq_true]
  intro hdigit
  simp only [Char.isDigit, ge_iff_le, Bool.and_eq_true, decide_eq_true_eq] at hdigit
  have hhigh : c.toNat ≤ 57 := hdigit.2
  omega

/-- A number begins neither with a blank nor like a comment. -/
theorem IsNumeral.head {c : Char} {cs : List Char} (h : IsNumeral (c :: cs)) (rest : List Char) :
    Text.isBlank c = false ∧ startsComment (c :: (cs ++ rest)) = false := by
  rcases isNumeral_cons_iff.1 h with hm | ⟨rfl, hm⟩
  · obtain ⟨d, ds, heq, hd⟩ := hm.head
    cases heq
    exact ⟨Text.isBlank_of_isDigit hd, startsComment_eq_false (Text.ne_sign_of_isDigit hd).1 _⟩
  · obtain ⟨d, ds, rfl, hd⟩ := hm.head
    obtain ⟨hminus, -⟩ := Text.ne_sign_of_isDigit hd
    refine ⟨rfl, ?_⟩
    rw [startsComment.eq_def]
    split
    · rename_i heq
      cases heq
      exact absurd rfl hminus
    · rfl

/-- A number that runs into a letter is refused. -/
theorem lexeme?_letter {c d : Char} {n ds : List Char} (hn : IsNumeral (c :: n))
    (hd : isWordStart d = true) :
    lexeme? c (n ++ d :: ds) = .error (.letterAfterNumber (String.ofList (c :: n))) := by
  have hdigit : ∀ e es, d :: ds = e :: es → e.isDigit = false := by
    rintro e es ⟨⟩
    exact isDigit_of_isWordStart hd
  have hplaces : takePlaces (d :: ds) = [] := by
    rw [takePlaces.eq_def]
    split
    · rename_i heq
      cases heq
      cases hd
    · rfl
  have hdate : startsDate (c :: (n ++ d :: ds)) = false := by
    rcases isNumeral_cons_iff.1 hn with hm | ⟨rfl, -⟩
    · refine startsDate_append hm hdigit ?_
      rintro - - t ⟨⟩
      cases hd
    · exact startsDate_minus _
  have hstart : startsWord (d :: ds) = true := hd
  rw [lexeme?_numeral hn hdate hdigit fun _ => hplaces, hstart]
  rfl

theorem offends_of_startsWord {c : Char} {cs : List Char}
    (hnumber : startsNumber (c :: cs) = true)
    (hstart : startsWord ((c :: cs).drop (takeNumber (c :: cs)).length) = true) :
    Offends c cs (.letterAfterNumber (String.ofList (takeNumber (c :: cs)))) := by
  have hn := isLexeme_number hnumber
  rw [IsLexeme, String.toList_ofList] at hn
  obtain ⟨rest, hrest⟩ := takeNumber_isPrefix (c :: cs)
  generalize takeNumber (c :: cs) = m at hn hstart hrest
  rw [← hrest, List.drop_left] at hstart
  cases m with
  | nil =>
    rcases hn with hm | ⟨ds, hnil, -⟩
    · obtain ⟨d, ds, hnil, -⟩ := hm.head
      cases hnil
    · cases hnil
  | cons e n =>
    rw [List.cons_append] at hrest
    obtain ⟨rfl, rfl⟩ := List.cons.inj hrest
    cases rest with
    | nil => cases hstart
    | cons d ds => exact .letter hn rfl hstart

/-- The places where scanning stops are those where no token begins. -/
theorem offends_iff {c : Char} {cs : List Char} {fault : Fault} :
    Offends c cs fault ↔ Text.isBlank c = false ∧ startsComment (c :: cs) = false ∧
      lexeme? c cs = .error fault := by
  constructor
  · intro h
    cases h with
    | unclosed hc h =>
      subst hc
      refine ⟨rfl, startsComment_eq_false (by decide) cs, ?_⟩
      rw [lexeme?, if_pos (by decide), unclosed_iff.1 h]
    | letter hn hcs hd =>
      subst hcs
      obtain ⟨hblank, hcomment⟩ := hn.head (_ :: _)
      exact ⟨hblank, hcomment, lexeme?_letter hn hd⟩
    | stray hblank hcomment hquote hnumber hword hmark =>
      refine ⟨hblank, hcomment, ?_⟩
      rw [lexeme?, if_neg (by simpa using hquote), startsDate_of_not_startsNumber hnumber,
        if_neg (by decide), hnumber, if_neg (by decide), hword, if_neg (by decide), hmark]
  · rintro ⟨hblank, hcomment, h⟩
    rw [lexeme?] at h
    split at h
    · rename_i hquote
      split at h
      · rename_i hq
        cases h
        exact .unclosed (by simpa using hquote) (unclosed_iff.2 hq)
      · cases h
    · rename_i hquote
      split at h
      · cases h
      · split at h
        · rename_i hnumber
          simp only at h
          split at h
          · rename_i hstart
            cases h
            exact offends_of_startsWord hnumber hstart
          · cases h
        · rename_i hnumber
          split at h
          · cases h
          · rename_i hword
            split at h
            · cases h
            · rename_i hmark
              cases h
              exact .stray hblank hcomment (by simpa using hquote) (by simpa using hnumber)
                (by simpa using hword) hmark

end Token

end Compliance
