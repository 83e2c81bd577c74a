import Compliance.Proofs.Token.Spelling

/-!
# Compliance.Proofs.Token.Boundary

Where lexemes end.

* `Lexeme`                 — the characters of a token, and what does not follow them.
* `takesMinus`             — tokens to which a minus sign directly behind them is added.
* `ClosesLike`             — a text that ends a lexeme where another one does.
* `lexeme?_of_closesLike`  — the lexeme is the same in front of such a text.
* `lexeme?_ne_of_minus`    — a minus sign that is added makes another token.
-/

namespace Compliance

namespace Token

/-! ## What is taken -/

theorem eq_of_isPrefix {p cs rest : List Char} {c : Char} (h : p <+: c :: (cs ++ rest))
    (hne : p ≠ []) (hlen : p.length - 1 = cs.length) : p = c :: cs := by
  have hpos : 0 < p.length := List.length_pos_iff.2 hne
  have hle : p.length ≤ (c :: cs).length := by
    rw [List.length_cons]
    omega
  refine (List.prefix_of_prefix_length_le h (List.prefix_append (c :: cs) rest) hle).eq_of_length ?_
  rw [List.length_cons]
  omega

theorem takeWord_isPrefix (cs : List Char) : takeWord cs <+: cs := by
  induction cs using takeWord.induct with
  | case1 => exact List.prefix_rfl
  | case2 c cs hc ih =>
    rw [takeWord, if_pos hc]
    exact List.cons_prefix_cons.2 ⟨rfl, ih⟩
  | case3 c cs hc =>
    rw [takeWord, if_neg hc]
    exact List.nil_prefix
  | case4 c cs hne hc ih =>
    rw [takeWord_cons hc]
    exact List.cons_prefix_cons.2 ⟨rfl, ih⟩
  | case5 c cs hne hc =>
    rw [takeWord, if_neg hc]
    · exact List.nil_prefix
    · exact hne

/-- A word is taken up to its end. -/
theorem takeWord_end (cs : List Char) :
    ∀ d ds, cs.drop (takeWord cs).length = d :: ds → isWordChar d = false := by
  induction cs using takeWord.induct with
  | case1 => simp
  | case2 c cs hc ih => simpa only [takeWord, if_pos hc, List.length_cons, List.drop_succ_cons]
  | case3 c cs hc =>
    rw [takeWord, if_neg hc]
    rintro d ds ⟨⟩
    rfl
  | case4 c cs hne hc ih => simpa only [takeWord_cons hc, List.length_cons, List.drop_succ_cons]
  | case5 c cs hne hc =>
    rw [takeWord, if_neg hc]
    · rintro d ds ⟨⟩
      simpa using hc
    · exact hne

theorem takePlaces_isPrefix (cs : List Char) : takePlaces cs <+: cs := by
  rw [takePlaces.eq_def]
  split
  · split
    · exact List.nil_prefix
    · exact List.cons_prefix_cons.2 ⟨rfl, List.takeWhile_prefix _⟩
  · exact List.nil_prefix

theorem takeMagnitude_isPrefix (cs : List Char) : takeMagnitude cs <+: cs := by
  obtain ⟨rest, hrest⟩ := takePlaces_isPrefix (cs.dropWhile Char.isDigit)
  refine ⟨rest, ?_⟩
  rw [takeMagnitude, List.append_assoc, hrest, List.takeWhile_append_dropWhile]

theorem drop_length_takeWhile (p : Char → Bool) (cs : List Char) :
    cs.drop (cs.takeWhile p).length = cs.dropWhile p := by
  conv => lhs; arg 2; rw [← List.takeWhile_append_dropWhile (p := p) (l := cs)]
  rw [List.drop_left]

theorem head_dropWhile {p : Char → Bool} {cs : List Char} :
    ∀ d ds, cs.dropWhile p = d :: ds → p d = false := by
  intro d ds h
  have hhead := List.head?_dropWhile_not p cs
  rw [h] at hhead
  simpa using hhead

theorem takePlaces_end {cs : List Char} (h : ∀ d ds, cs = d :: ds → d.isDigit = false) :
    ∀ d ds, cs.drop (takePlaces cs).length = d :: ds → d.isDigit = false := by
  rw [takePlaces.eq_def]
  split
  · split
    · exact h
    · rw [List.length_cons, List.drop_succ_cons, drop_length_takeWhile]
      exact head_dropWhile
  · exact h

/-- A number is taken up to its end. -/
theorem takeMagnitude_end (cs : List Char) :
    ∀ d ds, cs.drop (takeMagnitude cs).length = d :: ds → d.isDigit = false := by
  rw [takeMagnitude, List.length_append, ← List.drop_drop, drop_length_takeWhile]
  exact takePlaces_end head_dropWhile

theorem takeNumber_isPrefix (cs : List Char) : takeNumber cs <+: cs := by
  rw [takeNumber.eq_def]
  split
  · exact List.cons_prefix_cons.2 ⟨rfl, takeMagnitude_isPrefix _⟩
  · exact takeMagnitude_isPrefix _

theorem takeNumber_end (cs : List Char) :
    ∀ d ds, cs.drop (takeNumber cs).length = d :: ds → d.isDigit = false := by
  rw [takeNumber.eq_def]
  split
  · exact takeMagnitude_end _
  · exact takeMagnitude_end _

/-! ## Lexemes -/

/-- The characters of a token, and what the rest behind them does not begin with. -/
inductive Lexeme (c : Char) (cs rest : List Char) : Token → Prop where
  | text {s : List Char} (hc : c = '\'') (h : quoted? (cs ++ rest) = some (s, cs.length)) :
      Lexeme c cs rest (.text (String.ofList s))
  | instant (hdate : startsDate (c :: cs) = true) (hall : ∀ d ∈ c :: cs, isInstantChar d = true)
      (hend : ∀ d ds, rest = d :: ds → isInstantChar d = false) :
      Lexeme c cs rest (.instant (String.ofList (c :: cs)))
  | number (hdigits : (IsMagnitude (c :: cs)) ∨ c = '-' ∧ IsMagnitude cs)
      (hdate : startsDate (c :: (cs ++ rest)) = false)
      (hend : ∀ d ds, rest = d :: ds → isWordChar d = false) :
      Lexeme c cs rest (.number (String.ofList (c :: cs)))
  | word (hc : isWordStart c = true) (htake : takeWord (c :: cs) = c :: cs)
      (hend : ∀ d ds, rest = d :: ds → isWordChar d = false) :
      Lexeme c cs rest (.word (String.ofList (c :: cs)))
  | mark {t : Token} (hmark : mark? (c :: (cs ++ rest)) = some (t, cs.length + 1)) :
      Lexeme c cs rest t

theorem isWordChar_eq_false {d : Char} (hdigit : d.isDigit = false)
    (hstart : isWordStart d = false) :
    isWordChar d = false := by
  simp only [isWordStart, Bool.or_eq_false_iff] at hstart
  simp [isWordChar, Char.isAlphanum, hstart.1, hstart.2, hdigit]

theorem mark?_length_pos {cs : List Char} {t : Token} {n m : Nat} (h : mark? cs = some (t, n))
    (hlen : n - 1 = m) : n = m + 1 := by
  have hpos : 0 < n := by
    rw [mark?.eq_def] at h
    split at h <;> cases h <;> decide
  omega

theorem lexeme_number {c : Char} {cs rest : List Char}
    (hdate : startsDate (c :: (cs ++ rest)) = false)
    (hnumber : startsNumber (c :: (cs ++ rest)) = true)
    (hlen : (takeNumber (c :: (cs ++ rest))).length - 1 = cs.length)
    (hword :
      startsWord ((c :: (cs ++ rest)).drop (takeNumber (c :: (cs ++ rest))).length) = false) :
    Lexeme c cs rest (.number (String.ofList (takeNumber (c :: (cs ++ rest))))) := by
  have hlexeme := isLexeme_number hnumber
  have hend := takeNumber_end (c :: (cs ++ rest))
  rw [IsLexeme, String.toList_ofList] at hlexeme
  have hne : takeNumber (c :: (cs ++ rest)) ≠ [] := by
    rcases hlexeme with hm | ⟨ds, heq, -⟩
    · obtain ⟨d, ds, heq, -⟩ := hm.head
      simp [heq]
    · simp [heq]
  have htake := eq_of_isPrefix (takeNumber_isPrefix _) hne hlen
  rw [htake] at hword hend hlexeme ⊢
  have hdrop : (c :: (cs ++ rest)).drop (c :: cs).length = rest := by
    rw [← List.cons_append, List.drop_left]
  rw [hdrop] at hword hend
  refine .number ?_ hdate ?_
  · rcases hlexeme with hm | ⟨ds, heq, hm⟩
    · exact .inl hm
    · cases heq
      exact .inr ⟨rfl, hm⟩
  · rintro d ds rfl
    exact isWordChar_eq_false (hend d ds rfl) hword

theorem lexeme_of_lexeme? {t : Token} {c : Char} {cs rest : List Char}
    (h : lexeme? c (cs ++ rest) = .ok (t, cs.length)) : Lexeme c cs rest t := by
  rw [lexeme?] at h
  split at h
  · rename_i hc
    split at h
    · cases h
    · rename_i s n hq
      simp only [Except.ok.injEq, Prod.mk.injEq] at h
      obtain ⟨rfl, rfl⟩ := h
      exact .text (by simpa using hc) hq
  · split at h
    · rename_i hdate
      simp only [Except.ok.injEq, Prod.mk.injEq] at h
      obtain ⟨rfl, hlen⟩ := h
      have hlexeme := isLexeme_instant hdate
      have hend := drop_length_takeWhile isInstantChar (c :: (cs ++ rest))
      rw [IsLexeme, String.toList_ofList] at hlexeme
      have hne : (c :: (cs ++ rest)).takeWhile isInstantChar ≠ [] := by
        intro hnil
        rw [hnil] at hlexeme
        cases hlexeme.1
      have htake := eq_of_isPrefix ( List.takeWhile_prefix _) hne hlen
      rw [htake] at hlexeme hend ⊢
      rw [← List.cons_append, List.drop_left] at hend
      refine .instant hlexeme.1 hlexeme.2 ?_
      rw [hend]
      exact head_dropWhile
    · rename_i hdate
      split at h
      · rename_i hnumber
        simp only at h
        split at h
        · cases h
        · rename_i hword
          simp only [Except.ok.injEq, Prod.mk.injEq] at h
          obtain ⟨rfl, hlen⟩ := h
          exact lexeme_number (by simpa using hdate) hnumber hlen (by simpa using hword)
      · split at h
        · rename_i hword
          simp only [Except.ok.injEq, Prod.mk.injEq] at h
          obtain ⟨rfl, hlen⟩ := h
          have hne : takeWord (c :: (cs ++ rest)) ≠ [] := by
            rw [takeWord_cons (isWordChar_of_isWordStart hword)]
            exact List.cons_ne_nil _ _
          have htake := eq_of_isPrefix (takeWord_isPrefix _) hne hlen
          have hend := takeWord_end (c :: (cs ++ rest))
          have hagain := takeWord_takeWord (c :: (cs ++ rest))
          rw [htake] at hend hagain ⊢
          rw [← List.cons_append, List.drop_left] at hend
          exact .word hword hagain hend
        · split at h
          · rename_i hmark
            simp only [Except.ok.injEq, Prod.mk.injEq] at h
            obtain ⟨rfl, hlen⟩ := h
            refine .mark ?_
            rw [hmark, mark?_length_pos hmark hlen]
          · cases h

theorem length_le_of_isPrefix {p cs : List Char} {c : Char} (h : p <+: c :: cs) :
    p.length - 1 ≤ cs.length := by
  have hle := h.length_le
  rw [List.length_cons] at hle
  omega

theorem mark?_length_le {c : Char} {cs : List Char} {t : Token} {n : Nat}
    (h : mark? (c :: cs) = some (t, n)) : n - 1 ≤ cs.length := by
  rw [mark?.eq_def] at h
  split at h <;> cases h <;> rename_i heq <;> cases heq <;> simp

/-- A token takes no more characters than there are. -/
theorem length_le_of_lexeme? {t : Token} {c : Char} {cs : List Char} {n : Nat}
    (h : lexeme? c cs = .ok (t, n)) : n ≤ cs.length := by
  rw [lexeme?] at h
  split at h
  · split at h
    · cases h
    · rename_i s m hq
      cases h
      exact (quotation_of_quoted? hq).length_le.2
  · split at h
    · cases h
      exact length_le_of_isPrefix ( List.takeWhile_prefix _)
    · split at h
      · simp only at h
        split at h
        · cases h
        · cases h
          exact length_le_of_isPrefix (takeNumber_isPrefix _)
      · split at h
        · cases h
          exact length_le_of_isPrefix (takeWord_isPrefix _)
        · split at h
          · rename_i hmark
            cases h
            exact mark?_length_le hmark
          · cases h

/-! ## What may stand behind a lexeme -/

/-- Does a minus sign directly behind the token belong to it? An instant goes on with it, and a
number of four digits becomes a date. -/
def takesMinus : Token → Bool
  | .instant _ => true
  | .number n => n.toList.length == 4 && n.toList.all Char.isDigit
  | _ => false

/-- What comes behind a token, `rest'`, ends its lexeme if `rest` does: both begin with the same
character, or `rest'` begins with a blank, or with a minus sign that the token does not take. No
dot begins a token. -/
inductive ClosesLike (t : Token) (rest : List Char) : List Char → Prop where
  | blank {c : Char} (hc : Text.isBlank c = true) (cs : List Char) : ClosesLike t rest (c :: cs)
  | minus (ht : t.takesMinus = false) (cs : List Char) : ClosesLike t rest ('-' :: cs)
  | same {c : Char} (hc : c ≠ '.') {cs : List Char} (hrest : rest = c :: cs) (ds : List Char) :
      ClosesLike t rest (c :: ds)

theorem isBlank_of_isWordChar {c : Char} (h : isWordChar c = true) : Text.isBlank c = false := by
  simp only [isWordChar, Char.isAlphanum, Bool.or_eq_true] at h
  rcases h with (h | h) | h
  · exact isBlank_of_isWordStart (by simp [isWordStart, h])
  · exact Text.isBlank_of_isDigit h
  · exact isBlank_of_isWordStart (by simp [isWordStart, h])

theorem isBlank_of_isInstantChar {c : Char} (h : isInstantChar c = true) :
    Text.isBlank c = false := by
  simp only [isInstantChar, Bool.or_eq_true, beq_iff_eq] at h
  rcases h with (((h | rfl) | rfl) | rfl) | rfl
  · exact isBlank_of_isWordChar (by simp [isWordChar, h])
  all_goals decide

theorem ClosesLike.head {t : Token} {rest rest' : List Char} (h : ClosesLike t rest rest')
    {P : Char → Bool} (hblank : ∀ c, P c = true → Text.isBlank c = false)
    (hminus : t.takesMinus = false → P '-' = false)
    (hrest : ∀ d ds, rest = d :: ds → P d = false) : ∀ d ds, rest' = d :: ds → P d = false := by
  cases h with
  | blank hc cs =>
    rintro d ds ⟨⟩
    rw [← Bool.not_eq_true]
    intro hP
    rw [hblank _ hP] at hc
    cases hc
  | minus ht cs =>
    rintro d ds ⟨⟩
    exact hminus ht
  | same hc hrest' ds =>
    rintro d ds ⟨⟩
    exact hrest _ _ hrest'

theorem ClosesLike.ne_cons {t : Token} {rest rest' : List Char} (h : ClosesLike t rest rest')
    {c : Char} (hblank : Text.isBlank c = false) (hminus : c ≠ '-')
    (hrest : ∀ ds, rest ≠ c :: ds) : ∀ ds, rest' ≠ c :: ds := by
  rintro ds rfl
  cases h with
  | blank hc =>
    rw [hblank] at hc
    cases hc
  | minus => exact hminus rfl
  | same _ hrest' => exact hrest _ hrest'

theorem ClosesLike.stops {t : Token} {rest rest' : List Char} (h : ClosesLike t rest rest')
    (hrest : ∀ d ds, rest = d :: ds → isWordChar d = false) : Stops rest' := by
  have hword := h.head (fun _ => isBlank_of_isWordChar) (fun _ => rfl) hrest
  intro d ds hd
  refine ⟨hword d ds hd, ?_⟩
  rintro rfl
  cases h with
  | blank hc cs =>
    cases hd
    cases hc
  | minus ht cs => cases hd
  | same hc _ ds =>
    cases hd
    exact hc rfl

/-- A text is read up to a quote with no quote behind it, and nothing further is looked at. -/
theorem quoted?_take {cs s : List Char} {n : Nat} (h : quoted? cs = some (s, n)) :
    (∀ ds, cs.drop n ≠ '\'' :: ds) ∧
      ∀ rest : List Char, (∀ ds, rest ≠ '\'' :: ds) →
        quoted? (cs.take n ++ rest) = some (s, n) := by
  induction cs using quoted?.induct generalizing s n with
  | case1 => cases h
  | case2 cs ih =>
    rw [quoted?] at h
    obtain ⟨⟨t, m⟩, hq, ⟨⟩⟩ := Option.map_eq_some_iff.1 h
    obtain ⟨hend, htake⟩ := ih hq
    refine ⟨by simpa using hend, fun rest hrest => ?_⟩
    rw [List.take_succ_cons, List.take_succ_cons, List.cons_append, List.cons_append, quoted?,
      htake rest hrest]
    rfl
  | case3 cs ih =>
    rw [quoted?] at h
    obtain ⟨⟨t, m⟩, hq, ⟨⟩⟩ := Option.map_eq_some_iff.1 h
    obtain ⟨hend, htake⟩ := ih hq
    refine ⟨by simpa using hend, fun rest hrest => ?_⟩
    rw [List.take_succ_cons, List.take_succ_cons, List.cons_append, List.cons_append, quoted?,
      htake rest hrest]
    rfl
  | case4 c cs hdoubled hescaped hc =>
    rw [quoted?, if_pos hc] at h
    · cases h
      obtain rfl : c = '\'' := by simpa using hc
      refine ⟨fun ds => hdoubled ds rfl, fun rest hrest => ?_⟩
      rw [List.take_succ_cons, List.take_zero, List.singleton_append, quoted?]
      · rfl
      · exact fun ds _ => hrest ds
      · rintro ds ⟨⟩
    · exact hdoubled
    · exact hescaped
  | case5 c cs hdoubled hescaped hc ih =>
    rw [quoted?, if_neg hc] at h
    · obtain ⟨⟨t, m⟩, hq, ⟨⟩⟩ := Option.map_eq_some_iff.1 h
      obtain ⟨hend, htake⟩ := ih hq
      refine ⟨by simpa using hend, fun rest hrest => ?_⟩
      rw [List.take_succ_cons, List.cons_append, quoted?_cons (by simpa using hc), htake rest hrest]
      · rfl
      · -- The closing quote is still to come, so `cs` goes on with the same character.
        rintro rfl ds hds
        have hlen := (quotation_of_quoted? hq).length_le
        obtain ⟨k, rfl⟩ : ∃ k, m = k + 1 := ⟨m - 1, by omega⟩
        cases cs with
        | nil => simp at hlen
        | cons d cs =>
          rw [List.take_succ_cons, List.cons_append] at hds
          rw [(List.cons.inj hds).1] at hescaped
          exact hescaped cs rfl rfl
    · exact hdoubled
    · exact hescaped

theorem startsDate_of_digits {cs : List Char} (hlen : cs.length = 4)
    (hall : cs.all Char.isDigit = true) (rest : List Char) :
    startsDate (cs ++ '-' :: rest) = true := by
  match cs, hlen with
  | [a, b, c, d], _ => simpa [startsDate, and_assoc] using hall

theorem mark?_start {c : Char} {cs : List Char} {t : Token} {n : Nat}
    (h : mark? (c :: cs) = some (t, n)) :
    isWordStart c = false ∧ c ≠ '\'' ∧ c ≠ '-' ∧ c.isDigit = false := by
  rw [mark?.eq_def] at h
  split at h <;> cases h <;> rename_i heq <;> cases heq <;> decide

theorem mark?_of_closesLike {t : Token} {c : Char} {cs rest rest' : List Char}
    (h : mark? (c :: (cs ++ rest)) = some (t, cs.length + 1)) (hclose : ClosesLike t rest rest') :
    mark? (c :: (cs ++ rest')) = some (t, cs.length + 1) := by
  have pair {a b : Char} {ds : List Char} (hlen : cs.length = 1)
      (heq : c :: (cs ++ rest) = a :: b :: ds) : c = a ∧ cs = [b] := by
    obtain ⟨x, rfl⟩ := List.length_eq_one_iff.1 hlen
    cases heq
    exact ⟨rfl, rfl⟩
  have single {a : Char} {ds : List Char} (hlen : cs.length = 0)
      (heq : c :: (cs ++ rest) = a :: ds) : c = a ∧ cs = [] ∧ rest = ds := by
    obtain rfl := List.length_eq_zero_iff.1 hlen
    cases heq
    exact ⟨rfl, rfl, rfl⟩
  rw [mark?.eq_def] at h
  split at h
  case h_1 | h_2 | h_3 | h_4 | h_5 =>
    rename_i heq
    simp only [Option.some.injEq, Prod.mk.injEq] at h
    obtain ⟨rfl, hlen⟩ := h
    obtain ⟨rfl, rfl⟩ := pair (by omega) heq
    rfl
  case h_6 =>
    rename_i hequal heq
    simp only [Option.some.injEq, Prod.mk.injEq] at h
    obtain ⟨rfl, hlen⟩ := h
    obtain ⟨rfl, rfl, rfl⟩ := single (by omega) heq
    have hequal' := hclose.ne_cons rfl (by decide) hequal
    rw [List.nil_append, mark?]
    · rfl
    · exact hequal'
  case h_7 =>
    rename_i hgreater hequal heq
    simp only [Option.some.injEq, Prod.mk.injEq] at h
    obtain ⟨rfl, hlen⟩ := h
    obtain ⟨rfl, rfl, rfl⟩ := single (by omega) heq
    have hgreater' := hclose.ne_cons rfl (by decide) hgreater
    have hequal' := hclose.ne_cons rfl (by decide) hequal
    rw [List.nil_append, mark?]
    · rfl
    · exact hgreater'
    · exact hequal'
  case h_8 =>
    rename_i hequal heq
    simp only [Option.some.injEq, Prod.mk.injEq] at h
    obtain ⟨rfl, hlen⟩ := h
    obtain ⟨rfl, rfl, rfl⟩ := single (by omega) heq
    have hequal' := hclose.ne_cons rfl (by decide) hequal
    rw [List.nil_append, mark?]
    · rfl
    · exact hequal'
  case h_14 => cases h
  all_goals
    rename_i heq
    simp only [Option.some.injEq, Prod.mk.injEq] at h
    obtain ⟨rfl, hlen⟩ := h
    obtain ⟨rfl, rfl, rfl⟩ := single (by omega) heq
    rfl

/-- A lexeme stays the same in front of another text that closes it. -/
theorem lexeme?_of_closesLike {t : Token} {c : Char} {cs rest rest' : List Char}
    (h : lexeme? c (cs ++ rest) = .ok (t, cs.length)) (hclose : ClosesLike t rest rest') :
    lexeme? c (cs ++ rest') = .ok (t, cs.length) := by
  cases lexeme_of_lexeme? h with
  | text hc hq =>
    obtain ⟨hend, htake⟩ := quoted?_take hq
    rw [List.drop_left] at hend
    rw [List.take_left] at htake
    exact lexeme?_text (htake rest' (hclose.ne_cons rfl (by decide) hend)) hc
  | instant hdate hall hend =>
    have hend' := hclose.head (fun _ => isBlank_of_isInstantChar) (fun h => by cases h) hend
    rw [← String.toList_ofList (l := c :: cs)] at hdate hall
    obtain ⟨d, ds, heq, -, hread⟩ := lexeme?_instant hdate hall hend'
    rw [String.toList_ofList] at heq
    cases heq
    exact hread
  | number hdigits hdate hend =>
    have hstops := hclose.stops hend
    rcases hdigits with hm | ⟨rfl, hm⟩
    · have hdate' : startsDate (c :: cs ++ rest') = false := by
        refine startsDate_append hm hstops.not_digit fun hlen hall ds hds => ?_
        subst hds
        cases hclose with
        | blank hc => cases hc
        | minus ht => simp [takesMinus, hlen, hall] at ht
        | same _ hrest =>
          rw [hrest, ← List.cons_append, startsDate_of_digits hlen hall] at hdate
          cases hdate
      obtain ⟨d, ds, heq, -, hread⟩ := lexeme?_magnitude hm hstops hdate'
      cases heq
      exact hread
    · exact lexeme?_negative hm hstops
  | word hc htake hend =>
    rw [lexeme?_word hc, ← List.cons_append, takeWord_append htake (hclose.stops hend)]
    rfl
  | mark hmark =>
    obtain ⟨hstart, hquote, hminus, hdigit⟩ := mark?_start hmark
    exact lexeme?_mark (mark?_of_closesLike hmark hclose) hstart hquote hminus hdigit

/-! ## Heads -/

theorem startsDate_head {c : Char} {cs : List Char} (h : startsDate (c :: cs) = true) :
    c.isDigit = true := by
  rw [startsDate.eq_def] at h
  split at h
  · rename_i heq
    cases heq
    simp only [Bool.and_eq_true] at h
    exact h.1.1.1
  · cases h

theorem mark?_head {c : Char} {cs : List Char} {t : Token} {n : Nat}
    (h : mark? (c :: cs) = some (t, n)) : Text.isBlank c = false ∧ c ≠ '.' ∧ c ≠ '-' := by
  rw [mark?.eq_def] at h
  split at h <;> cases h <;> rename_i heq <;> cases heq <;> decide

theorem takesMinus_of_mark? {cs : List Char} {t : Token} {n : Nat} (h : mark? cs = some (t, n)) :
    t.takesMinus = false := by
  rw [mark?.eq_def] at h
  split at h <;> cases h <;> rfl

/-- A token begins neither with a blank or a dot nor like a comment. -/
theorem Lexeme.head {t : Token} {c : Char} {cs rest : List Char} (h : Lexeme c cs rest t) :
    Text.isBlank c = false ∧ c ≠ '.' ∧ ∀ rest', startsComment (c :: (cs ++ rest')) = false := by
  have digit {d : Char} (hd : d.isDigit = true) : Text.isBlank d = false ∧ d ≠ '.' ∧ d ≠ '-' := by
    refine ⟨Text.isBlank_of_isDigit hd, ?_, (Text.ne_sign_of_isDigit hd).1⟩
    rintro rfl
    cases hd
  have other (h : Text.isBlank c = false ∧ c ≠ '.' ∧ c ≠ '-') :
      Text.isBlank c = false ∧ c ≠ '.' ∧ ∀ rest', startsComment (c :: (cs ++ rest')) = false :=
    ⟨h.1, h.2.1, fun _ => startsComment_eq_false h.2.2 _⟩
  cases h with
  | text hc =>
    subst hc
    exact other (by decide)
  | instant hdate => exact other (digit (startsDate_head hdate))
  | number hdigits =>
    rcases hdigits with hm | ⟨rfl, hm⟩
    · obtain ⟨d, ds, heq, hd⟩ := hm.head
      cases heq
      exact other (digit hd)
    · obtain ⟨d, ds, rfl, hd⟩ := hm.head
      refine ⟨rfl, by decide, fun rest' => ?_⟩
      rw [startsComment.eq_def]
      split
      · rename_i heq
        cases heq
        cases hd
      · rfl
  | word hc =>
    refine other ⟨isBlank_of_isWordStart hc, ?_, ?_⟩ <;> rintro rfl <;> cases hc
  | mark hmark => exact other (mark?_head hmark)

theorem startsDate_append_of {cs : List Char} (h : startsDate cs = true) (rest : List Char) :
    startsDate (cs ++ rest) = true := by
  rw [startsDate.eq_def] at h
  split at h
  · simpa only [List.cons_append, startsDate] using h
  · cases h

/-- A minus sign that a token takes makes another token of it. -/
theorem lexeme?_ne_of_minus {t : Token} {c : Char} {cs rest : List Char} {n : Nat}
    (h : lexeme? c (cs ++ rest) = .ok (t, cs.length)) (ht : t.takesMinus = true)
    (rest' : List Char) : lexeme? c (cs ++ '-' :: rest') ≠ .ok (t, n) := by
  have longer (hdate : startsDate (c :: (cs ++ '-' :: rest')) = true) :
      lexeme? c (cs ++ '-' :: rest') = .ok (.instant (String.ofList
        ((c :: (cs ++ '-' :: rest')).takeWhile isInstantChar)),
        ((c :: (cs ++ '-' :: rest')).takeWhile isInstantChar).length - 1) := by
    have hquote : c ≠ '\'' := by
      rintro rfl
      cases startsDate_head hdate
    rw [lexeme?, if_neg (by simpa using hquote), if_pos hdate]
  intro hread
  cases lexeme_of_lexeme? h with
  | text => cases ht
  | instant hdate hall hend =>
    rw [longer (startsDate_append_of hdate _)] at hread
    have hsame : (c :: (cs ++ '-' :: rest')).takeWhile isInstantChar = c :: cs := by
      simp only [Except.ok.injEq, Prod.mk.injEq, Token.instant.injEq, String.ofList_inj] at hread
      exact hread.1
    have hlonger : (c :: (cs ++ '-' :: rest')).takeWhile isInstantChar =
        c :: cs ++ '-' :: rest'.takeWhile isInstantChar := by
      rw [← List.cons_append, List.takeWhile_append_of_pos hall]
      rfl
    rw [hlonger] at hsame
    simp at hsame
  | number hdigits hdate hend =>
    simp only [takesMinus, String.toList_ofList, Bool.and_eq_true, beq_iff_eq] at ht
    rw [longer (startsDate_of_digits ht.1 ht.2 rest')] at hread
    cases hread
  | word => cases ht
  | mark hmark =>
    rw [takesMinus_of_mark? hmark] at ht
    cases ht

end Token

end Compliance
