import Compliance.Proofs.Text.Digits
import Compliance.Proofs.Token.Quotation

/-!
# Compliance.Proofs.Token.Lexeme

How single tokens are written.

* `Token.spelling`          — the text of a token.
* `Token.IsLexeme`          — tokens that can stand in a text.
* `lexeme?_spelling`        — in front of a break, a token is read back from its spelling.
* `isLexeme_of_lexeme?`     — the tokens that are read can stand in a text.
-/

namespace Compliance

namespace Token

/-- How a token is written; the quotes inside a text are doubled. -/
def spelling : Token → List Char
  | .word w => w.toList
  | .text s => '\'' :: (doubleQuotes s.toList ++ ['\''])
  | .number n => n.toList
  | .instant t => t.toList
  | .leftBracket => ['[']
  | .rightBracket => [']']
  | .leftParen => ['(']
  | .rightParen => [')']
  | .comma => [',']
  | .equal => ['=']
  | .notEqual => ['!', '=']
  | .less => ['<']
  | .lessEqual => ['<', '=']
  | .greater => ['>']
  | .greaterEqual => ['>', '=']
  | .endOfInput => []

/-- Digits, and perhaps a point with more digits behind it. -/
def IsMagnitude (cs : List Char) : Prop :=
  ∃ ds ps, cs = ds ++ ps ∧ ds ≠ [] ∧ (∀ c ∈ ds, c.isDigit = true) ∧
    (ps = [] ∨ ∃ qs, ps = '.' :: qs ∧ qs ≠ [] ∧ ∀ c ∈ qs, c.isDigit = true)

/-- The tokens that can stand in a text. No text ends with a backslash: the quote behind it would
belong to the text. -/
def IsLexeme : Token → Prop
  | .word w => startsWord w.toList = true ∧ takeWord w.toList = w.toList
  | .text s => s.toList.getLast? ≠ some '\\'
  | .number n => IsMagnitude n.toList ∨ ∃ cs, n.toList = '-' :: cs ∧ IsMagnitude cs
  | .instant t => startsDate t.toList = true ∧ ∀ c ∈ t.toList, isInstantChar c = true
  | .endOfInput => False
  | _ => True

/-- Brackets and commas end where they are written, whatever follows. -/
def isBracket : Token → Bool
  | .leftBracket => true
  | .rightBracket => true
  | .leftParen => true
  | .rightParen => true
  | .comma => true
  | _ => false

/-- No word and no number goes on with this text. -/
def Stops (rest : List Char) : Prop := ∀ c cs, rest = c :: cs → isWordChar c = false ∧ c ≠ '.'

theorem Breaks.stops {rest : List Char} (h : Breaks rest) : Stops rest :=
  h.head (fun c => isWordChar c = false ∧ c ≠ '.') (by decide)

theorem Stops.not_digit {rest : List Char} (h : Stops rest) :
    ∀ c cs, rest = c :: cs → c.isDigit = false := by
  intro c cs hrest
  have hword := (h c cs hrest).1
  simp only [isWordChar, Char.isAlphanum, Bool.or_eq_false_iff] at hword
  exact hword.1.2

/-! ## Words -/

theorem takeWord_of_stops {rest : List Char} (h : Stops rest) : takeWord rest = [] := by
  cases rest with
  | nil => rfl
  | cons c cs =>
    obtain ⟨hword, hdot⟩ := h c cs rfl
    rw [takeWord.eq_def]
    split
    · rfl
    · rename_i heq
      cases heq
      exact absurd rfl hdot
    · rename_i heq
      cases heq
      rw [hword]
      rfl

theorem takeWord_cons {c : Char} (hc : isWordChar c = true) (cs : List Char) :
    takeWord (c :: cs) = c :: takeWord cs := by
  rw [takeWord, if_pos hc]
  rintro d ds rfl
  cases hc

/-- A word in front of a text goes on with the word at the start of that text. -/
theorem takeWord_append_eq {w : List Char} (hw : takeWord w = w) (rest : List Char) :
    takeWord (w ++ rest) = w ++ takeWord rest := by
  induction w using takeWord.induct with
  | case1 => rfl
  | case2 c cs hc ih =>
    rw [takeWord, if_pos hc] at hw
    rw [List.cons_append, List.cons_append, takeWord, if_pos hc, ← List.cons_append,
      ih (List.cons.inj hw).2]
    rfl
  | case3 c cs hc =>
    rw [takeWord, if_neg hc] at hw
    cases hw
  | case4 c cs hne hc ih =>
    rw [takeWord_cons hc] at hw
    rw [List.cons_append, takeWord_cons hc, ih (List.cons.inj hw).2]
    rfl
  | case5 c cs hne hc =>
    rw [takeWord, if_neg hc] at hw
    · cases hw
    · exact hne

theorem takeWord_append {w rest : List Char} (hw : takeWord w = w) (h : Stops rest) :
    takeWord (w ++ rest) = w := by
  rw [takeWord_append_eq hw, takeWord_of_stops h, List.append_nil]

/-- A word that is taken from a text is taken again. -/
theorem takeWord_takeWord (cs : List Char) : takeWord (takeWord cs) = takeWord cs := by
  induction cs using takeWord.induct with
  | case1 => rfl
  | case2 c cs hc ih =>
    rw [takeWord, if_pos hc]
    rw [takeWord_cons hc] at ih ⊢
    rw [takeWord, if_pos hc, ih]
  | case3 c cs hc =>
    rw [takeWord, if_neg hc]
    rfl
  | case4 c cs hne hc ih => rw [takeWord_cons hc, takeWord_cons hc, ih]
  | case5 c cs hne hc =>
    rw [takeWord, if_neg hc]
    · rfl
    · exact hne

/-! ## Numbers -/

theorem takePlaces_of_stops {rest : List Char} (h : Stops rest) : takePlaces rest = [] := by
  rw [takePlaces.eq_def]
  split
  · exact absurd rfl (h _ _ rfl).2
  · rfl

/-- Where the digits of a number end. -/
theorem isDigit_of_places {ps rest : List Char}
    (h : ∀ c cs, rest = c :: cs → c.isDigit = false)
    (hps : ps = [] ∨ ∃ qs, ps = '.' :: qs ∧ qs ≠ [] ∧ ∀ c ∈ qs, c.isDigit = true) :
    ∀ c vs, ps ++ rest = c :: vs → c.isDigit = false := by
  rcases hps with rfl | ⟨qs, rfl, -, -⟩
  · exact h
  · rintro c vs ⟨⟩
    rfl

/-- A number ends where no digit goes on with it, and no places follow unless it has some. -/
theorem takeMagnitude_append {cs rest : List Char} (hcs : IsMagnitude cs)
    (h : ∀ c cs, rest = c :: cs → c.isDigit = false)
    (hplaces : '.' ∉ cs → takePlaces rest = []) : takeMagnitude (cs ++ rest) = cs := by
  obtain ⟨ds, ps, rfl, -, hds, hps⟩ := hcs
  have hend := isDigit_of_places h hps
  rw [takeMagnitude, List.append_assoc, Text.takeWhile_isDigit_append hds hend,
    Text.dropWhile_isDigit_append hds hend]
  rcases hps with rfl | ⟨qs, rfl, hne, hqs⟩
  · have hdot : '.' ∉ ds ++ [] := by
      rw [List.append_nil]
      intro hmem
      cases hds '.' hmem
    rw [List.nil_append, hplaces hdot]
  · rw [List.cons_append, takePlaces, Text.takeWhile_isDigit_append hqs h, if_neg]
    simpa using hne

/-- A number starts a date if it has four digits, no places, and a minus sign behind it. -/
theorem startsDate_append {cs rest : List Char} (hcs : IsMagnitude cs)
    (h : ∀ c cs, rest = c :: cs → c.isDigit = false)
    (hminus : cs.length = 4 → cs.all Char.isDigit = true → ∀ t, rest ≠ '-' :: t) :
    startsDate (cs ++ rest) = false := by
  rw [← Bool.not_eq_true]
  intro hdate
  rw [startsDate.eq_def] at hdate
  split at hdate
  · rename_i a b c d t heq
    simp only [Bool.and_eq_true] at hdate
    obtain ⟨⟨⟨ha, hb⟩, hc⟩, hd⟩ := hdate
    obtain ⟨ds, ps, rfl, -, hds, hps⟩ := hcs
    have hend := isDigit_of_places h hps
    have htake : ds = [a, b, c, d] := by
      rw [← Text.takeWhile_isDigit_append hds hend, ← List.append_assoc, heq]
      simp [ha, hb, hc, hd, show Char.isDigit '-' = false from rfl]
    subst htake
    have hrest : ps ++ rest = '-' :: t := by simpa using heq
    rcases hps with rfl | ⟨qs, rfl, -, -⟩
    · exact hminus rfl (by simp [ha, hb, hc, hd]) t hrest
    · cases hrest
  · cases hdate

theorem startsDate_minus (cs : List Char) : startsDate ('-' :: cs) = false := by
  rw [startsDate.eq_def]
  split
  · rename_i heq
    rw [← (List.cons.inj heq).1]
    rfl
  · rfl

/-! ## Lexemes -/

theorem lexeme?_text {s rest : List Char} {c : Char} {n : Nat} (h : quoted? rest = some (s, n))
    (hc : c = '\'') : lexeme? c rest = .ok (.text (String.ofList s), n) := by
  rw [lexeme?, if_pos (by simpa using hc), h]

theorem toNat_of_isWordStart {c : Char} (h : isWordStart c = true) :
    65 ≤ c.toNat ∧ c.toNat ≤ 122 := by
  delta isWordStart Char.isAlpha Char.isUpper Char.isLower at h
  simp only [ge_iff_le, Bool.or_eq_true, Bool.and_eq_true, decide_eq_true_eq, beq_iff_eq] at h
  rcases h with (⟨h1, h2⟩ | ⟨h1, h2⟩) | rfl
  · have hlow : 65 ≤ c.toNat := h1
    have hhigh : c.toNat ≤ 90 := h2
    omega
  · have hlow : 97 ≤ c.toNat := h1
    have hhigh : c.toNat ≤ 122 := h2
    omega
  · decide

/-- A letter starts neither a text, a date nor a number. -/
theorem lexeme?_word {c : Char} {cs : List Char} (hc : isWordStart c = true) :
    lexeme? c cs =
      .ok (.word (String.ofList (takeWord (c :: cs))), (takeWord (c :: cs)).length - 1) := by
  have hquote : c ≠ '\'' := by rintro rfl; cases hc
  have hdigit : c.isDigit = false := by
    rw [← Bool.not_eq_true]
    intro hd
    simp only [Char.isDigit, ge_iff_le, Bool.and_eq_true, decide_eq_true_eq] at hd
    have hlow : 65 ≤ c.toNat := (toNat_of_isWordStart hc).1
    have hhigh : c.toNat ≤ 57 := hd.2
    omega
  have hminus : c ≠ '-' := by rintro rfl; cases hc
  have hdate : startsDate (c :: cs) = false := by
    rw [startsDate.eq_def]
    split
    · rename_i heq
      cases heq
      simp [hdigit]
    · rfl
  have hnumber : startsNumber (c :: cs) = false := by
    rw [startsNumber.eq_def]
    split
    · rename_i heq
      cases heq
      exact absurd rfl hminus
    · rename_i heq
      cases heq
      exact hdigit
    · rfl
  rw [lexeme?, if_neg (by simpa using hquote), hdate, if_neg (by decide), hnumber,
    if_neg (by decide), if_pos hc]

theorem Stops.startsWord {rest : List Char} (h : Stops rest) :
    Token.startsWord rest = false := by
  cases rest with
  | nil => rfl
  | cons c cs =>
    have hword := (h c cs rfl).1
    simp only [isWordChar, Char.isAlphanum, Bool.or_eq_false_iff] at hword
    simp [Token.startsWord, isWordStart, hword.1.1, hword.2]

/-- Digits with a sign or without one, and perhaps with places. -/
def IsNumeral (cs : List Char) : Prop := IsMagnitude cs ∨ ∃ ds, cs = '-' :: ds ∧ IsMagnitude ds

theorem IsMagnitude.head {cs : List Char} (h : IsMagnitude cs) :
    ∃ c ds, cs = c :: ds ∧ c.isDigit = true := by
  obtain ⟨ds, ps, rfl, hne, hds, -⟩ := h
  cases ds with
  | nil => exact absurd rfl hne
  | cons c ds => exact ⟨c, ds ++ ps, rfl, hds c List.mem_cons_self⟩

theorem IsNumeral.ne_quote {c : Char} {cs : List Char} (h : IsNumeral (c :: cs)) : c ≠ '\'' := by
  rintro rfl
  rcases h with h | ⟨ds, hds, -⟩
  · obtain ⟨d, ds, hds, hd⟩ := h.head
    cases hds
    cases hd
  · cases hds

theorem IsNumeral.startsNumber {c : Char} {cs : List Char} (h : IsNumeral (c :: cs))
    (rest : List Char) : Token.startsNumber (c :: (cs ++ rest)) = true := by
  rcases h with h | ⟨ds, hds, h⟩
  · obtain ⟨d, ds, hds, hd⟩ := h.head
    cases hds
    obtain ⟨hminus, -⟩ := Text.ne_sign_of_isDigit hd
    rw [Token.startsNumber.eq_def]
    split
    · rename_i heq
      exact absurd (List.cons.inj heq).1 hminus
    · rename_i heq
      rw [← (List.cons.inj heq).1]
      exact hd
    · rename_i heq
      cases heq
  · cases hds
    obtain ⟨d, es, rfl, hd⟩ := h.head
    exact hd

/-- A number ends where no digit goes on with it, and no places follow unless it has some. -/
theorem IsNumeral.takeNumber_append {cs rest : List Char} (h : IsNumeral cs)
    (hdigit : ∀ c cs, rest = c :: cs → c.isDigit = false)
    (hplaces : '.' ∉ cs → takePlaces rest = []) : takeNumber (cs ++ rest) = cs := by
  rcases h with h | ⟨ds, rfl, h⟩
  · obtain ⟨d, ds, hds, hd⟩ := h.head
    obtain ⟨hminus, -⟩ := Text.ne_sign_of_isDigit hd
    rw [takeNumber.eq_def]
    split
    · rename_i heq
      rw [hds] at heq
      exact absurd (List.cons.inj heq).1 hminus
    · exact takeMagnitude_append h hdigit hplaces
  · have hplaces' : '.' ∉ ds → takePlaces rest = [] := by
      intro hdot
      exact hplaces (by simp [hdot])
    rw [List.cons_append, takeNumber, takeMagnitude_append h hdigit hplaces']

/-- What is found where a number starts and no date does. -/
theorem lexeme?_numeral {c : Char} {cs rest : List Char} (h : IsNumeral (c :: cs))
    (hdate : startsDate (c :: (cs ++ rest)) = false)
    (hdigit : ∀ c cs, rest = c :: cs → c.isDigit = false)
    (hplaces : '.' ∉ c :: cs → takePlaces rest = []) :
    lexeme? c (cs ++ rest) =
      if startsWord rest then .error (.letterAfterNumber (String.ofList (c :: cs)))
      else .ok (.number (String.ofList (c :: cs)), cs.length) := by
  have htake := h.takeNumber_append hdigit hplaces
  have hdrop : (c :: cs ++ rest).drop (c :: cs).length = rest := List.drop_left
  rw [List.cons_append] at htake hdrop
  rw [lexeme?, if_neg (by simpa using h.ne_quote), hdate, if_neg (by decide),
    if_pos (h.startsNumber rest), htake]
  simp only [hdrop]
  rfl

theorem lexeme?_magnitude {cs rest : List Char} (hcs : IsMagnitude cs) (h : Stops rest)
    (hdate : startsDate (cs ++ rest) = false) :
    ∃ c ds, cs = c :: ds ∧ c.isDigit = true ∧
      lexeme? c (ds ++ rest) = .ok (.number (String.ofList cs), ds.length) := by
  obtain ⟨c, ds, rfl, hc⟩ := hcs.head
  refine ⟨c, ds, rfl, hc, ?_⟩
  rw [lexeme?_numeral (.inl hcs) hdate h.not_digit fun _ => takePlaces_of_stops h, h.startsWord]
  rfl

theorem lexeme?_negative {cs rest : List Char} (hcs : IsMagnitude cs) (h : Stops rest) :
    lexeme? '-' (cs ++ rest) = .ok (.number (String.ofList ('-' :: cs)), cs.length) := by
  rw [lexeme?_numeral (.inr ⟨cs, rfl, hcs⟩) (startsDate_minus _) h.not_digit
    fun _ => takePlaces_of_stops h, h.startsWord]
  rfl

theorem lexeme?_instant {t : String} {rest : List Char} (hdate : startsDate t.toList = true)
    (hall : ∀ c ∈ t.toList, isInstantChar c = true)
    (h : ∀ c cs, rest = c :: cs → isInstantChar c = false) :
    ∃ c cs, t.toList = c :: cs ∧ c.isDigit = true ∧
      lexeme? c (cs ++ rest) = .ok (.instant t, cs.length) := by
  have htake : (t.toList ++ rest).takeWhile isInstantChar = t.toList := by
    rw [List.takeWhile_append_of_pos hall]
    cases rest with
    | nil => simp
    | cons d ds => simp [h d ds rfl]
  have hofList : String.ofList t.toList = t := String.ofList_toList
  rw [startsDate.eq_def] at hdate
  split at hdate
  · rename_i a b c d u heq
    simp only [Bool.and_eq_true] at hdate
    obtain ⟨⟨⟨ha, hb⟩, hc⟩, hd⟩ := hdate
    have hquote : a ≠ '\'' := by rintro rfl; cases ha
    refine ⟨a, b :: c :: d :: '-' :: u, heq, ha, ?_⟩
    have hstarts : startsDate (a :: (b :: c :: d :: '-' :: u ++ rest)) = true := by
      simp only [List.cons_append, startsDate, ha, hb, hc, hd, Bool.and_self]
    rw [lexeme?, if_neg (by simpa using hquote), if_pos hstarts, ← List.cons_append, ← heq, htake]
    simp only
    rw [hofList, heq]
    rfl
  · cases hdate

/-- The marks that are no brackets are read back in front of a break. -/
theorem lexeme?_mark {t : Token} {c : Char} {cs rest : List Char}
    (h : mark? (c :: (cs ++ rest)) = some (t, cs.length + 1)) (hc : isWordStart c = false)
    (hquote : c ≠ '\'') (hminus : c ≠ '-') (hdigit : c.isDigit = false) :
    lexeme? c (cs ++ rest) = .ok (t, cs.length) := by
  have hdate : startsDate (c :: (cs ++ rest)) = false := by
    rw [startsDate.eq_def]
    split
    · rename_i heq
      rw [← (List.cons.inj heq).1, hdigit]
      rfl
    · rfl
  have hnumber : startsNumber (c :: (cs ++ rest)) = false := by
    rw [startsNumber.eq_def]
    split
    · rename_i heq
      exact absurd (List.cons.inj heq).1 hminus
    · rename_i heq
      rw [← (List.cons.inj heq).1, hdigit]
    · rfl
  rw [lexeme?, if_neg (by simpa using hquote), hdate, if_neg (by decide), hnumber,
    if_neg (by decide), hc, if_neg (by decide), h]
  rfl

/-- In front of a break, a token is read back from its spelling, unless that hides a quote. -/
theorem lexeme?_spelling {t : Token} (ht : t.IsLexeme)
    (hclean : ∀ s, t = .text s → ¬ HidesQuote s.toList) {rest : List Char}
    (h : t.isBracket = true ∨ Breaks rest) :
    ∃ c cs, t.spelling = c :: cs ∧ lexeme? c (cs ++ rest) = .ok (t, cs.length) := by
  cases t with
  | word w =>
    have h := h.resolve_left Bool.false_ne_true
    obtain ⟨hstart, htake⟩ := ht
    cases hw : w.toList with
    | nil => rw [hw] at hstart; cases hstart
    | cons c cs =>
      rw [hw] at hstart htake
      refine ⟨c, cs, hw, ?_⟩
      rw [lexeme?_word hstart, ← List.cons_append, takeWord_append htake (Breaks.stops h), ← hw,
        String.ofList_toList, hw]
      rfl
  | text s =>
    have h := h.resolve_left Bool.false_ne_true
    refine ⟨_, _, rfl, ?_⟩
    rw [List.append_assoc, List.singleton_append,
      lexeme?_text (quoted?_doubleQuotes (hclean s rfl) ht h) rfl, String.ofList_toList,
      List.length_append]
    rfl
  | number n =>
    have h := h.resolve_left Bool.false_ne_true
    have hofList : String.ofList n.toList = n := String.ofList_toList
    rcases ht with hm | ⟨cs, hcs, hm⟩
    · have hminus := h.head (· ≠ '-') (by decide)
      have hdate := startsDate_append hm (Breaks.stops h).not_digit fun _ _ t ht => hminus _ _ ht rfl
      obtain ⟨c, ds, hn, -, hread⟩ := lexeme?_magnitude hm (Breaks.stops h) hdate
      exact ⟨c, ds, hn, by rw [hread, hofList]⟩
    · exact ⟨'-', cs, hcs, by rw [lexeme?_negative hm (Breaks.stops h), ← hcs, hofList]⟩
  | instant t =>
    have h := h.resolve_left Bool.false_ne_true
    obtain ⟨c, cs, ht, -, hread⟩ :=
      lexeme?_instant ht.1 ht.2 (h.head (isInstantChar · = false) (by decide))
    exact ⟨c, cs, ht, hread⟩
  | endOfInput => exact ht.elim
  | leftBracket => exact ⟨_, _, rfl, lexeme?_mark rfl rfl (by decide) (by decide) rfl⟩
  | rightBracket => exact ⟨_, _, rfl, lexeme?_mark rfl rfl (by decide) (by decide) rfl⟩
  | leftParen => exact ⟨_, _, rfl, lexeme?_mark rfl rfl (by decide) (by decide) rfl⟩
  | rightParen => exact ⟨_, _, rfl, lexeme?_mark rfl rfl (by decide) (by decide) rfl⟩
  | comma => exact ⟨_, _, rfl, lexeme?_mark rfl rfl (by decide) (by decide) rfl⟩
  | notEqual => exact ⟨_, _, rfl, lexeme?_mark rfl rfl (by decide) (by decide) rfl⟩
  | lessEqual => exact ⟨_, _, rfl, lexeme?_mark rfl rfl (by decide) (by decide) rfl⟩
  | greaterEqual => exact ⟨_, _, rfl, lexeme?_mark rfl rfl (by decide) (by decide) rfl⟩
  | _ =>
    refine ⟨_, _, rfl, lexeme?_mark ?_ rfl (by decide) (by decide) rfl⟩
    cases rest with
    | nil => rfl
    | cons c cs =>
      have hbreak := h.resolve_left Bool.false_ne_true c cs rfl
      rcases eq_of_isBreak hbreak with rfl | rfl | rfl | rfl | rfl <;>
        rfl

/-! ## What is read -/

theorem isMagnitude_takeMagnitude {c : Char} {cs : List Char} (hc : c.isDigit = true) :
    IsMagnitude (takeMagnitude (c :: cs)) := by
  refine ⟨(c :: cs).takeWhile Char.isDigit, takePlaces ((c :: cs).dropWhile Char.isDigit), rfl,
    by simp [hc], List.all_eq_true.1 List.all_takeWhile, ?_⟩
  rw [takePlaces.eq_def]
  split
  · split
    · exact .inl rfl
    · rename_i ds _ hne
      exact .inr ⟨_, rfl, by simpa using hne, List.all_eq_true.1 List.all_takeWhile⟩
  · exact .inl rfl

theorem isLexeme_number {c : Char} {cs : List Char} (h : startsNumber (c :: cs) = true) :
    (Token.number (String.ofList (takeNumber (c :: cs)))).IsLexeme := by
  rw [IsLexeme, String.toList_ofList, takeNumber.eq_def]
  split
  · rename_i ds heq
    cases heq
    rw [startsNumber.eq_def] at h
    split at h
    · rename_i heq
      cases heq
      exact .inr ⟨_, rfl, isMagnitude_takeMagnitude h⟩
    · rename_i heq
      cases heq
      cases h
    · cases h
  · rename_i hne
    rw [startsNumber.eq_def] at h
    split at h
    · rename_i heq
      exact absurd heq (hne _)
    · rename_i heq
      cases heq
      exact .inl (isMagnitude_takeMagnitude h)
    · cases h

theorem isInstantChar_of_isDigit {c : Char} (h : c.isDigit = true) : isInstantChar c = true := by
  simp [isInstantChar, Char.isAlphanum, h]

theorem isLexeme_instant {cs : List Char} (h : startsDate cs = true) :
    (Token.instant (String.ofList (cs.takeWhile isInstantChar))).IsLexeme := by
  rw [IsLexeme, String.toList_ofList]
  refine ⟨?_, List.all_eq_true.1 List.all_takeWhile⟩
  rw [startsDate.eq_def] at h
  split at h
  · rename_i a b c d u
    simp only [Bool.and_eq_true] at h
    obtain ⟨⟨⟨ha, hb⟩, hc⟩, hd⟩ := h
    simp [isInstantChar_of_isDigit, ha, hb, hc, hd, startsDate,
      show isInstantChar '-' = true from rfl]
  · cases h

theorem isLexeme_mark {cs : List Char} {t : Token} {n : Nat} (h : mark? cs = some (t, n)) :
    t.IsLexeme ∧ ∀ s, t ≠ .text s := by
  rw [mark?.eq_def] at h
  split at h <;> cases h <;> exact ⟨trivial, fun s hs => by cases hs⟩

theorem isWordChar_of_isWordStart {c : Char} (hc : isWordStart c = true) :
    isWordChar c = true := by
  simp only [isWordStart, isWordChar, Char.isAlphanum, Bool.or_eq_true] at hc ⊢
  exact hc.imp_left .inl

theorem isLexeme_takeWord {c : Char} {cs : List Char} (hc : isWordStart c = true) :
    (Token.word (String.ofList (takeWord (c :: cs)))).IsLexeme := by
  rw [IsLexeme, String.toList_ofList, takeWord_takeWord,
    takeWord_cons (isWordChar_of_isWordStart hc)]
  exact ⟨hc, rfl⟩

/-- What is read is a quoted text, or a lexeme of another kind. -/
theorem lexeme?_cases {c : Char} {cs : List Char} {t : Token} {n : Nat}
    (h : lexeme? c cs = .ok (t, n)) :
    (∃ s, t = .text (String.ofList s) ∧ quoted? cs = some (s, n)) ∨
      (t.IsLexeme ∧ ∀ s, t ≠ .text s) := by
  rw [lexeme?] at h
  split at h
  · split at h
    · cases h
    · rename_i s m hq
      cases h
      exact .inl ⟨s, rfl, hq⟩
  · refine .inr ?_
    split at h
    · rename_i hdate
      cases h
      exact ⟨isLexeme_instant hdate, fun s hs => by cases hs⟩
    · split at h
      · rename_i hnumber
        simp only at h
        split at h
        · cases h
        · cases h
          exact ⟨isLexeme_number hnumber, fun s hs => by cases hs⟩
      · split at h
        · rename_i hword
          cases h
          exact ⟨isLexeme_takeWord hword, fun s hs => by cases hs⟩
        · split at h
          · rename_i hmark
            cases h
            exact isLexeme_mark hmark
          · cases h

/-- What is read is a lexeme. -/
theorem isLexeme_of_lexeme? {c : Char} {cs : List Char} {t : Token} {n : Nat}
    (h : lexeme? c cs = .ok (t, n)) : t.IsLexeme := by
  rcases lexeme?_cases h with ⟨s, rfl, hq⟩ | ⟨ht, -⟩
  · rw [IsLexeme, String.toList_ofList]
    exact (quotation_of_quoted? hq).getLast?_ne
  · exact ht

theorem quotation_of_lexeme? {c : Char} {cs : List Char} {s : String} {n : Nat}
    (h : lexeme? c cs = .ok (.text s, n)) : Quotation cs s.toList n := by
  rcases lexeme?_cases h with ⟨t, ht, hq⟩ | ⟨-, hne⟩
  · cases ht
    rw [String.toList_ofList]
    exact quotation_of_quoted? hq
  · exact absurd rfl (hne s)

end Token

end Compliance
