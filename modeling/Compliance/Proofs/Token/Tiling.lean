import Compliance.Proofs.Token.Extent
import Compliance.Proofs.Token.Layout

/-!
# Compliance.Proofs.Token.Tiling

Texts as their lexemes, with white space and comments between them, each at its place.

* `Position.after`       — line and column, counted from the start of the text.
* `Tiles`                — lexemes that stand one behind the other, with their positions.
* `Tiles.scanFrom`       — scanning goes through the lexemes and on behind them.
* `exists_tiles`         — every text is tiled up to its end, or up to where no token begins.
* `Tiles.cut`            — a text that is tiled up to a place is tiled when it ends there.
* `scan_tiles`           — the tokens of a text, or its first fault, with their positions.
-/

namespace Compliance

/-! ## Positions -/

/-- The place behind a text that starts on the first line: one line more than it has line ends, one
column more than it has characters behind the last of them. -/
def Position.after (cs : List Char) : Position :=
  ⟨cs.count '\n' + 1, (cs.reverse.takeWhile (· != '\n')).length + 1⟩

theorem Position.after_step (cs : List Char) (c : Char) : (after cs).step c = after (cs ++ [c]) := by
  by_cases hc : c = '\n'
  · simp [after, step, hc]
  · simp [after, step, hc]

theorem Position.after_behind (cs ds : List Char) : (after cs).behind ds = after (cs ++ ds) := by
  induction ds generalizing cs with
  | nil => simp [behind]
  | cons d ds ih =>
    have hstep := ih (cs ++ [d])
    rw [← after_step, List.append_assoc] at hstep
    exact hstep

namespace Token

/-- Behind `before` and in front of `post`, the characters `front` are the lexemes of `ts`, each as
far as it goes and with the place where it begins, and between and around them white space and
comments, each up to a line end or the end of the text. -/
inductive Tiles (post : List Char) : List Char → List Char → List PlacedToken → Prop where
  | done (before : List Char) : Tiles post before [] []
  | blank {c : Char} {before front : List Char} {ts : List PlacedToken}
      (hc : Text.isBlank c = true) (h : Tiles post (before ++ [c]) front ts) :
      Tiles post before (c :: front) ts
  | comment {note before front : List Char} {ts : List PlacedToken} (hnote : '\n' ∉ note)
      (hend : ∀ d ds, front ++ post = d :: ds → d = '\n')
      (h : Tiles post (before ++ '-' :: '-' :: note) front ts) :
      Tiles post before ('-' :: '-' :: (note ++ front)) ts
  | token {t : Token} {c : Char} {cs before front : List Char} {ts : List PlacedToken}
      (ht : Lexeme c cs (front ++ post) t) (hend : ¬ t.GoesOn (front ++ post))
      (h : Tiles post (before ++ c :: cs) front ts) :
      Tiles post before (c :: (cs ++ front)) (⟨t, .after before⟩ :: ts)

/-! ## Steps -/

theorem scanFrom_of_isBlank {c : Char} (hc : Text.isBlank c = true) (before cs : List Char) :
    scanFrom (.after before) (c :: cs) = scanFrom (.after (before ++ [c])) cs := by
  have hminus : c ≠ '-' := by
    rintro rfl
    cases hc
  rw [scanFrom, startsComment_eq_false hminus, if_neg (by decide), if_pos hc, Position.after_step]

theorem takeWhile_note {note rest : List Char} (hnote : '\n' ∉ note)
    (hend : ∀ d ds, rest = d :: ds → d = '\n') :
    (note ++ rest).takeWhile (· != '\n') = note := by
  have hsplit := List.takeWhile_append_dropWhile (p := (· != '\n')) (l := note ++ rest)
  rw [dropWhile_note hnote hend] at hsplit
  exact List.append_cancel_right hsplit

theorem scanFrom_comment {note rest : List Char} (hnote : '\n' ∉ note)
    (hend : ∀ d ds, rest = d :: ds → d = '\n') (before : List Char) :
    scanFrom (.after before) ('-' :: '-' :: (note ++ rest)) =
      scanFrom (.after (before ++ '-' :: '-' :: note)) rest := by
  have hnote' : '\n' ∉ '-' :: note := by simp [hnote]
  have hcomment : startsComment ('-' :: '-' :: (note ++ rest)) = true := rfl
  rw [scanFrom, if_pos hcomment, ← List.cons_append, takeWhile_note hnote' hend,
    dropWhile_note hnote' hend, Position.after_step, Position.after_behind, List.append_assoc]
  rfl

theorem scanFrom_of_lexeme {t : Token} {c : Char} {cs rest : List Char} (ht : Lexeme c cs rest t)
    (hend : ¬ t.GoesOn rest) (before : List Char) :
    scanFrom (.after before) (c :: (cs ++ rest)) =
      (scanFrom (.after (before ++ c :: cs)) rest).map (⟨t, .after before⟩ :: ·) := by
  obtain ⟨hblank, -, hcomment⟩ := ht.head
  rw [scanFrom, hcomment, if_neg (by decide), hblank, if_neg (by decide),
    lexeme?_iff.2 ⟨ht, hend⟩]
  simp only [List.take_left, List.drop_left, Position.after_step, Position.after_behind,
    List.append_assoc, List.singleton_append]

theorem scanFrom_offends {c : Char} {cs : List Char} {fault : Fault} (h : Offends c cs fault)
    (p : Position) : scanFrom p (c :: cs) = .error ⟨p, fault⟩ := by
  obtain ⟨hblank, hcomment, hread⟩ := offends_iff.1 h
  rw [scanFrom, hcomment, if_neg (by decide), hblank, if_neg (by decide), hread]

/-! ## Scanning -/

/-- Scanning goes through what is tiled and on behind it. -/
theorem Tiles.scanFrom {post before front : List Char} {ts : List PlacedToken}
    (h : Tiles post before front ts) :
    scanFrom (.after before) (front ++ post) =
      (Token.scanFrom (.after (before ++ front)) post).map (ts ++ ·) := by
  induction h with
  | done before =>
    rw [List.append_nil, List.nil_append]
    cases Token.scanFrom (.after before) post <;> rfl
  | blank hc _ ih =>
    rw [List.cons_append, scanFrom_of_isBlank hc, ih, List.append_assoc]
    rfl
  | comment hnote hend _ ih =>
    rw [List.cons_append, List.cons_append, List.append_assoc, scanFrom_comment hnote hend, ih,
      List.append_assoc]
    rfl
  | @token t c cs before front ts ht hend _ ih =>
    rw [List.cons_append, List.append_assoc, scanFrom_of_lexeme ht hend, ih, List.append_assoc,
      List.cons_append]
    cases Token.scanFrom (.after (before ++ c :: (cs ++ front))) post <;> rfl

theorem Tiles.scanFrom_end {before front : List Char} {ts : List PlacedToken}
    (h : Tiles [] before front ts) :
    Token.scanFrom (.after before) front =
      .ok (ts ++ [⟨.endOfInput, .after (before ++ front)⟩]) := by
  have hscan := h.scanFrom
  rw [List.append_nil, Token.scanFrom.eq_1] at hscan
  exact hscan

theorem Tiles.scanFrom_offends {before front back : List Char} {c : Char} {fault : Fault}
    {ts : List PlacedToken} (h : Tiles (c :: back) before front ts) (hc : Offends c back fault) :
    Token.scanFrom (.after before) (front ++ c :: back) =
      .error ⟨.after (before ++ front), fault⟩ := by
  rw [h.scanFrom, Token.scanFrom_offends hc]
  rfl

/-- Every text is tiled up to its end, or up to a place where no token begins. -/
theorem exists_tiles (before cs : List Char) :
    ∃ front post ts, cs = front ++ post ∧ Tiles post before front ts ∧
      ∀ c back, post = c :: back → ∃ fault, Offends c back fault := by
  induction Position.start, cs using scanFrom.induct generalizing before with
  | case1 =>
    refine ⟨[], [], [], rfl, .done before, ?_⟩
    rintro c back ⟨⟩
  | case2 p c cs hcomment ih =>
    obtain ⟨rest, heq⟩ := eq_of_startsComment hcomment
    cases heq
    obtain ⟨front, post, ts, hsplit, htiles, hpost⟩ :=
      ih (before ++ '-' :: '-' :: rest.takeWhile (· != '\n'))
    rw [List.dropWhile_cons, if_pos (by decide)] at hsplit
    refine ⟨'-' :: '-' :: (rest.takeWhile (· != '\n') ++ front), post, ts, ?_, ?_, hpost⟩
    · rw [List.cons_append, List.cons_append, List.append_assoc, ← hsplit,
        List.takeWhile_append_dropWhile]
    · refine .comment (notMem_takeWhile_note rest) ?_ htiles
      intro d ds hd
      rw [← hsplit] at hd
      simpa using head_dropWhile d ds hd
  | case3 p c cs hcomment hblank ih =>
    obtain ⟨front, post, ts, rfl, htiles, hpost⟩ := ih (before ++ [c])
    exact ⟨c :: front, post, ts, rfl, .blank hblank htiles, hpost⟩
  | case4 p c cs hcomment hblank fault hread =>
    have hoffends : Offends c cs fault := offends_iff.2 ⟨by simpa using hblank,
      by simpa using hcomment, hread⟩
    refine ⟨[], c :: cs, [], rfl, .done before, ?_⟩
    rintro d ds ⟨⟩
    exact ⟨fault, hoffends⟩
  | case5 p c cs hcomment hblank t n hread ih =>
    have hlen : (cs.take n).length = n := List.length_take_of_le (length_le_of_lexeme? hread)
    obtain ⟨front, post, ts, hsplit, htiles, hpost⟩ := ih (before ++ c :: cs.take n)
    have ht : lexeme? c (cs.take n ++ (front ++ post)) = .ok (t, (cs.take n).length) := by
      rw [← hsplit, List.take_append_drop, hlen, hread]
    obtain ⟨hlexeme, hend⟩ := lexeme?_iff.1 ht
    refine ⟨c :: (cs.take n ++ front), post, _, ?_, .token hlexeme hend htiles, hpost⟩
    rw [List.cons_append, List.append_assoc, ← hsplit, List.take_append_drop]

/-! ## Ending earlier -/

/-- A mark is known by its first two characters. -/
theorem mark?_cons_cons (c d : Char) (cs ds : List Char) :
    mark? (c :: d :: cs) = mark? (c :: d :: ds) := by
  rw [mark?.eq_def]
  split
  case h_14 => simp_all [mark?]
  all_goals
    rename_i heq
    cases heq
    simp_all [mark?]

theorem mark?_cut {cs rest : List Char} {t : Token} {n : Nat}
    (h : mark? (cs ++ rest) = some (t, n)) (hn : n ≤ cs.length) : mark? cs = some (t, n) := by
  match cs with
  | [] =>
    rw [mark?.eq_def] at h
    split at h <;> cases h <;> cases hn
  | [c] =>
    rw [mark?.eq_def] at h
    split at h <;> cases h
    case h_1 | h_2 | h_3 | h_4 | h_5 => simp at hn
    all_goals
      rename_i heq
      cases heq
      rfl
  | c :: d :: cs => rwa [mark?_cons_cons c d cs (cs ++ rest)]

/-- The text may end anywhere behind a lexeme. -/
theorem Lexeme.cut {t : Token} {c : Char} {cs rest post : List Char}
    (h : Lexeme c cs (rest ++ post) t) : Lexeme c cs rest t := by
  have cut_head {p : Char → Prop} (hend : ∀ d ds, rest ++ post = d :: ds → p d) :
      ∀ d ds, rest = d :: ds → p d := by
    rintro d ds rfl
    exact hend d (ds ++ post) rfl
  cases h with
  | text hc hq =>
    obtain ⟨hend, htake⟩ := quoted?_take hq
    rw [List.drop_left] at hend
    rw [List.take_left] at htake
    refine .text hc (htake rest ?_)
    rintro ds rfl
    exact hend (ds ++ post) rfl
  | instant hdate hall hend => exact .instant hdate hall (cut_head hend)
  | number hdigits hdate hend =>
    refine .number hdigits ?_ (cut_head hend)
    rw [← Bool.not_eq_true] at hdate ⊢
    intro hstart
    have hlonger := startsDate_append_of hstart post
    rw [List.cons_append, List.append_assoc] at hlonger
    exact hdate hlonger
  | word hc htake hend => exact .word hc htake (cut_head hend)
  | mark hmark =>
    rw [← List.append_assoc, ← List.cons_append] at hmark
    exact .mark (mark?_cut hmark (by simp))

theorem GoesOn.append {t : Token} {rest : List Char} (h : t.GoesOn rest) (post : List Char) :
    t.GoesOn (rest ++ post) := by
  rw [GoesOn.eq_def] at h
  split at h
  · exact h
  · exact h
  · cases h

/-- What is tiled is tiled in the same way when the text ends there. -/
theorem Tiles.cut {post before front : List Char} {ts : List PlacedToken}
    (h : Tiles post before front ts) : Tiles [] before front ts := by
  induction h with
  | done before => exact .done before
  | blank hc _ ih => exact .blank hc ih
  | comment hnote hend _ ih =>
    refine .comment hnote ?_ ih
    rintro d ds hd
    rw [List.append_nil] at hd
    subst hd
    exact hend d _ rfl
  | token ht hend _ ih =>
    refine .token ?_ ?_ ih
    · rw [List.append_nil]
      exact ht.cut
    · rw [List.append_nil]
      exact fun hgoes => hend (hgoes.append _)

/-! ## Tokens and faults with their places -/

theorem Lexeme.ne_endOfInput {t : Token} {c : Char} {cs rest : List Char}
    (h : Lexeme c cs rest t) : t ≠ .endOfInput := by
  cases h with
  | text => nofun
  | instant => nofun
  | number => nofun
  | word => nofun
  | mark hmark =>
    rintro rfl
    rw [mark?.eq_def] at hmark
    split at hmark <;> cases hmark

theorem Tiles.ne_endOfInput {post before front : List Char} {ts : List PlacedToken}
    (h : Tiles post before front ts) : ∀ t ∈ ts, t.token ≠ .endOfInput := by
  induction h with
  | done => nofun
  | blank _ _ ih => exact ih
  | comment _ _ _ ih => exact ih
  | token ht _ _ ih => exact List.forall_mem_cons.2 ⟨ht.ne_endOfInput, ih⟩

/-- A text is scanned when it is tiled up to its end. Its tokens are the ones of its lexemes, each
at the place of its first character, and then, only once, the end of the text, at its place. Else it
is tiled up to a place where no token begins: that is the place of the fault, and the text in front
of it is scanned. -/
theorem scan_tiles (source : String) :
    (∀ placed, scan source = .ok placed ↔ ∃ ts, Tiles [] [] source.toList ts ∧
      (∀ t ∈ ts, t.token ≠ .endOfInput) ∧
      placed = ts ++ [⟨.endOfInput, .after source.toList⟩]) ∧
    (∀ d, scan source = .error d ↔ ∃ front c back ts, source.toList = front ++ c :: back ∧
      Tiles (c :: back) [] front ts ∧ Offends c back d.fault ∧ d.position = .after front ∧
      scan (String.ofList front) = .ok (ts ++ [⟨.endOfInput, .after front⟩])) := by
  have hstart : Position.start = .after [] := rfl
  have hok {ts : List PlacedToken} (h : Tiles [] [] source.toList ts) :
      scan source = .ok (ts ++ [⟨.endOfInput, .after source.toList⟩]) := by
    rw [scan, hstart, h.scanFrom_end, List.nil_append]
  have herror {front back : List Char} {c : Char} {fault : Fault} {ts : List PlacedToken}
      (hsplit : source.toList = front ++ c :: back) (h : Tiles (c :: back) [] front ts)
      (hc : Offends c back fault) : scan source = .error ⟨.after front, fault⟩ := by
    rw [scan, hstart, hsplit, h.scanFrom_offends hc, List.nil_append]
  obtain ⟨front, post, ts, hsplit, htiles, hpost⟩ := exists_tiles [] source.toList
  refine ⟨fun placed => ⟨?_, ?_⟩, fun d => ⟨?_, ?_⟩⟩
  · intro h
    cases post with
    | nil =>
      rw [List.append_nil] at hsplit
      subst hsplit
      rw [hok htiles] at h
      exact ⟨ts, htiles, htiles.ne_endOfInput, (Except.ok.inj h).symm⟩
    | cons c back =>
      obtain ⟨fault, hc⟩ := hpost c back rfl
      rw [herror hsplit htiles hc] at h
      cases h
  · rintro ⟨ts, htiles, -, rfl⟩
    exact hok htiles
  · intro h
    cases post with
    | nil =>
      rw [List.append_nil] at hsplit
      subst hsplit
      rw [hok htiles] at h
      cases h
    | cons c back =>
      obtain ⟨fault, hc⟩ := hpost c back rfl
      rw [herror hsplit htiles hc] at h
      cases h
      refine ⟨front, c, back, ts, hsplit, htiles, hc, rfl, ?_⟩
      rw [scan, hstart, String.toList_ofList, htiles.cut.scanFrom_end, List.nil_append]
  · rintro ⟨front, c, back, ts, hsplit, htiles, hc, hposition, -⟩
    rw [herror hsplit htiles hc, ← hposition]

end Token

end Compliance
