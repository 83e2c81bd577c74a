import Compliance.Value.Test

/-!
# Compliance.Proofs.Value.Wildcards

The expression that is made of a text with wildcards is read, whatever the text is.

* `Value.wildcardItem`        — the part of the expression that stands for one character.
* `Value.wildcardPattern`     — the pattern that the expression denotes.
* `Value.ofText_wildcards`    — the expression is read, item by item.
* `Value.ofText?_wildcards`   — and denotes that pattern.
-/

namespace Compliance

open Compliance.Pattern

/-! ## One round of reading -/

namespace Pattern.Expression

variable {fuel o : Nat} {l : Level} {names : GroupNames} {rest : List Char} {c : Char}

theorem readLevel_dot :
    readLevel (fuel + 1) l names ⟨'.' :: rest, o, false⟩ =
      readLevel fuel (l.add (.dot (.one o))) names ⟨rest, o + 1, false⟩ := rfl

theorem readLevel_lineStart :
    readLevel (fuel + 1) l names ⟨'^' :: rest, o, false⟩ =
      readLevel fuel (l.add (.anchor (.one o) .lineStart)) names ⟨rest, o + 1, false⟩ := rfl

theorem readLevel_lineEnd :
    readLevel (fuel + 1) l names ⟨'$' :: rest, o, false⟩ =
      readLevel fuel (l.add (.anchor (.one o) .lineEnd)) names ⟨rest, o + 1, false⟩ := rfl

theorem readLevel_dotAll :
    readLevel (fuel + 1) l names ⟨'(' :: '?' :: 's' :: ')' :: rest, o, false⟩ =
      readLevel fuel (l.add (.flags [⟨.dotAll, true⟩])) names ⟨rest, o + 4, false⟩ := rfl

/-- The sign of a repetition counts for the item in front of it; a question mark behind it would be
read with it. -/
theorem readLevel_star {inner : Expression} (hinner : inner.isRepeatable = true)
    (hrest : rest.head? ≠ some '?') :
    readLevel (fuel + 1) (l.add inner) names ⟨'*' :: rest, o, false⟩ =
      readLevel fuel (l.add (.repetition ⟨inner.place.start, o + 1⟩ inner 0 none)) names
        ⟨rest, o + 1, false⟩ := by
  have hreluctant : skipReluctant ⟨rest, o + 1, false⟩ = ⟨rest, o + 1, false⟩ := by
    simp [skipReluctant, Cursor.sees, Cursor.next?, hrest]
  have hread : readRepetition inner ⟨'*' :: rest, o, false⟩ =
      .ok (.repetition ⟨inner.place.start, o + 1⟩ inner 0 none, ⟨rest, o + 1, false⟩) := by
    simp [readRepetition, repetition?, Cursor.next?, Cursor.bump, Cursor.since, hreluctant]
  simp [readLevel, Cursor.skipIgnored, Cursor.isAtEnd, Cursor.sees, Cursor.next?, seesRepetition,
    Level.add, hinner, hread]

theorem ne_of_not_mem_metaCharacters {d : Char} (hc : c ∉ metaCharacters)
    (hd : d ∈ metaCharacters) : c ≠ d := fun h => hc (h ▸ hd)

theorem readLevel_literal (hc : c ∉ metaCharacters) :
    readLevel (fuel + 1) l names ⟨c :: rest, o, false⟩ =
      readLevel fuel (l.add (.literal ⟨.one o, c, false⟩)) names ⟨rest, o + 1, false⟩ := by
  have hread : readPrimitive ⟨c :: rest, o, false⟩ =
      .ok (.literal ⟨.one o, c, false⟩, ⟨rest, o + 1, false⟩) := by
    have hbackslash : c ≠ '\\' := ne_of_not_mem_metaCharacters hc (by decide)
    have hdot : c ≠ '.' := ne_of_not_mem_metaCharacters hc (by decide)
    have hstart : c ≠ '^' := ne_of_not_mem_metaCharacters hc (by decide)
    have hend : c ≠ '$' := ne_of_not_mem_metaCharacters hc (by decide)
    simp only [readPrimitive, Cursor.next?, List.head?_cons]
    rfl
  simp only [metaCharacters, List.mem_cons, List.not_mem_nil, or_false, not_or] at hc
  simp [readLevel, Cursor.skipIgnored, Cursor.isAtEnd, Cursor.sees, Cursor.next?, seesRepetition,
    hc, hread]

/-- The characters that are escaped have no other meaning behind a backslash. -/
theorem escapable_of_mem (hc : c ∈ metaCharacters) :
    Primitive.isEscapable c = true ∧ c.isDigit = false ∧ Primitive.hexWidth? c = none ∧
      Primitive.shorthand? c = none ∧ (c == 'p') = false ∧ (c == 'P') = false := by
  have hall : metaCharacters.all (fun c => Primitive.isEscapable c && !c.isDigit &&
      (Primitive.hexWidth? c).isNone && (Primitive.shorthand? c).isNone && c != 'p' && c != 'P') =
      true := by decide
  have hescapable := List.all_eq_true.1 hall c hc
  simp only [Bool.and_eq_true, Bool.not_eq_true', Option.isNone_iff_eq_none, bne_iff_ne,
    and_assoc] at hescapable
  simpa only [beq_eq_false_iff_ne] using hescapable

theorem readLevel_escape (hc : c ∈ metaCharacters) :
    readLevel (fuel + 1) l names ⟨'\\' :: c :: rest, o, false⟩ =
      readLevel fuel (l.add (.literal ⟨⟨o, o + 2⟩, c, false⟩)) names ⟨rest, o + 2, false⟩ := by
  obtain ⟨hescapable, hdigit, hhex, hshort, hp, hP⟩ := escapable_of_mem hc
  have hread : Primitive.readEscape ⟨'\\' :: c :: rest, o, false⟩ =
      .ok (.literal ⟨⟨o, o + 2⟩, c, false⟩, ⟨rest, o + 2, false⟩) := by
    simp [Primitive.readEscape, Primitive.readShort, Cursor.bump, Cursor.next?, Cursor.since,
      hescapable, hdigit, hhex, hshort, hp, hP]
  simp [readLevel, readPrimitive, Cursor.skipIgnored, Cursor.isAtEnd, Cursor.sees, Cursor.next?,
    seesRepetition, hread, Primitive.toExpression, Except.map]

end Pattern.Expression

namespace Value

open Compliance.Pattern.Expression

/-! ## Reading the expression -/

/-- The part of the expression that stands for one character, where it begins at a place. -/
def wildcardItem (o : Nat) (c : Char) : Expression :=
  if c == '%' then .repetition ⟨o, o + 2⟩ (.dot (.one o)) 0 none
  else if c == '_' then .dot (.one o)
  else .literal ⟨⟨o, o + (escaped c).length⟩, c, false⟩

/-- The parts for several characters. -/
def wildcardItems (o : Nat) : List Char → List Expression
  | [] => []
  | c :: cs => wildcardItem o c :: wildcardItems (o + (wildcard c).length) cs

variable {fuel o : Nat} {l : Level} {names : GroupNames} {rest cs : List Char} {c : Char}

theorem readLevel_escaped (hfuel : (escaped c ++ rest).length < fuel) :
    ∃ fuel', rest.length < fuel' ∧
      readLevel fuel l names ⟨escaped c ++ rest, o, false⟩ =
        readLevel fuel' (l.add (.literal ⟨⟨o, o + (escaped c).length⟩, c, false⟩)) names
          ⟨rest, o + (escaped c).length, false⟩ := by
  cases fuel with
  | zero => omega
  | succ fuel =>
    by_cases hc : c ∈ metaCharacters
    · have hescaped : escaped c = ['\\', c] := if_pos (List.contains_iff_mem.2 hc)
      rw [hescaped] at hfuel ⊢
      simp only [List.length_append, List.length_cons, List.length_nil] at hfuel
      exact ⟨fuel, by omega, readLevel_escape hc⟩
    · have hescaped : escaped c = [c] := if_neg (mt List.contains_iff_mem.1 hc)
      rw [hescaped] at hfuel ⊢
      simp only [List.length_append, List.length_cons, List.length_nil] at hfuel
      exact ⟨fuel, by omega, readLevel_literal hc⟩

/-- What stands for one character is read as one item, if no question mark follows. -/
theorem readLevel_wildcard (hfuel : (wildcard c ++ rest).length < fuel)
    (hrest : rest.head? ≠ some '?') :
    ∃ fuel', rest.length < fuel' ∧
      readLevel fuel l names ⟨wildcard c ++ rest, o, false⟩ =
        readLevel fuel' (l.add (wildcardItem o c)) names
          ⟨rest, o + (wildcard c).length, false⟩ := by
  by_cases hrun : (c == '%') = true
  · have hwildcard : wildcard c = ['.', '*'] := if_pos hrun
    have hitem : wildcardItem o c = .repetition ⟨o, o + 2⟩ (.dot (.one o)) 0 none := if_pos hrun
    rw [hwildcard] at hfuel ⊢
    simp only [List.length_append, List.length_cons, List.length_nil] at hfuel
    obtain ⟨f, rfl⟩ : ∃ f, fuel = f + 1 + 1 := ⟨fuel - 2, by omega⟩
    have hdot : readLevel (f + 1 + 1) l names ⟨'.' :: '*' :: rest, o, false⟩ =
        readLevel (f + 1) (l.add (.dot (.one o))) names ⟨'*' :: rest, o + 1, false⟩ :=
      readLevel_dot
    rw [hitem]
    exact ⟨f, by omega, hdot.trans (readLevel_star rfl hrest)⟩
  · by_cases hone : (c == '_') = true
    · have hwildcard : wildcard c = ['.'] := (if_neg hrun).trans (if_pos hone)
      have hitem : wildcardItem o c = .dot (.one o) := (if_neg hrun).trans (if_pos hone)
      rw [hwildcard] at hfuel ⊢
      simp only [List.length_append, List.length_cons, List.length_nil] at hfuel
      obtain ⟨f, rfl⟩ : ∃ f, fuel = f + 1 := ⟨fuel - 1, by omega⟩
      rw [hitem]
      exact ⟨f, by omega, readLevel_dot⟩
    · have hwildcard : wildcard c = escaped c := (if_neg hrun).trans (if_neg hone)
      have hitem : wildcardItem o c = .literal ⟨⟨o, o + (escaped c).length⟩, c, false⟩ :=
        (if_neg hrun).trans (if_neg hone)
      rw [hwildcard] at hfuel ⊢
      rw [hitem]
      exact readLevel_escaped hfuel

/-- No character, and not the end either, is written with a question mark in front. -/
theorem head?_wildcard (c : Char) (rest : List Char) :
    (wildcard c ++ rest).head? ≠ some '?' := by
  rw [wildcard]
  split
  · exact nofun
  · split
    · exact nofun
    · rw [escaped]
      split
      · exact nofun
      · rename_i hmeta
        rintro ⟨⟩
        exact hmeta rfl

theorem head?_wildcards (cs : List Char) : (cs.flatMap wildcard ++ ['$']).head? ≠ some '?' := by
  cases cs with
  | nil => exact nofun
  | cons c cs =>
    rw [List.flatMap_cons, List.append_assoc]
    exact head?_wildcard c _

/-- The characters are read one by one, up to the end of the expression. -/
theorem readLevel_wildcards (hopening : l.opening = none)
    (hfuel : (cs.flatMap wildcard ++ ['$']).length < fuel) :
    ∃ stop rest place,
      readLevel fuel l names ⟨cs.flatMap wildcard ++ ['$'], o, false⟩ =
        .ok (({ l with items := .anchor place .lineEnd :: (wildcardItems o cs).reverse ++ l.items } :
          Level).close stop, names, rest) := by
  induction cs generalizing fuel o l with
  | nil =>
    obtain ⟨f, rfl⟩ : ∃ f, fuel = f + 1 + 1 := ⟨fuel - 2, by simp at hfuel; omega⟩
    refine ⟨o + 1, ⟨[], o + 1, false⟩, .one o, ?_⟩
    rw [List.flatMap_nil, List.nil_append, readLevel_lineEnd]
    simp [readLevel, Cursor.skipIgnored, Cursor.isAtEnd, Level.add, hopening, wildcardItems]
  | cons c cs ih =>
    rw [List.flatMap_cons, List.append_assoc] at hfuel ⊢
    obtain ⟨fuel', hfuel', hread⟩ :=
      readLevel_wildcard (l := l) (o := o) hfuel (head?_wildcards cs)
    obtain ⟨stop, rest, place, hrest⟩ :=
      ih (l := l.add (wildcardItem o c)) (o := o + (wildcard c).length) hopening hfuel'
    refine ⟨stop, rest, place, ?_⟩
    rw [hread, hrest]
    simp [wildcardItems, Level.add]

/-! ## Depth -/

theorem anyTooDeep?_eq_none {depth : Nat} {items : List Expression}
    (h : ∀ item ∈ items, tooDeep? depth item = none) : anyTooDeep? depth items = none := by
  induction items with
  | nil => rfl
  | cons item items ih =>
    rw [anyTooDeep?, h item List.mem_cons_self, Option.none_or]
    exact ih fun i hi => h i (List.mem_cons_of_mem _ hi)

theorem tooDeep?_wildcardItem (depth o : Nat) (c : Char) :
    tooDeep? (depth + 1) (wildcardItem o c) = none := by
  rw [wildcardItem]
  split
  · rfl
  · split <;> rfl

theorem tooDeep?_of_mem_wildcardItems {depth : Nat} {item : Expression}
    (h : item ∈ wildcardItems o cs) : tooDeep? (depth + 1) item = none := by
  induction cs generalizing o with
  | nil => cases h
  | cons c cs ih =>
    rw [wildcardItems] at h
    rcases List.mem_cons.1 h with rfl | h
    · exact tooDeep?_wildcardItem depth o c
    · exact ih h

/-- The expression of a text with wildcards is read, and is a plain row of items. -/
theorem ofText_wildcards (cs : List Char) :
    ∃ place final, Expression.ofText (wildcards cs) =
      .ok (.concat place (.flags [⟨.dotAll, true⟩] :: .anchor (.one 4) .lineStart ::
        (wildcardItems 5 cs ++ [.anchor final .lineEnd]))) := by
  let body := cs.flatMap wildcard ++ ['$']
  let l : Level :=
    ⟨none, 0, [], 0, [.anchor (.one 4) .lineStart, .flags [⟨.dotAll, true⟩]]⟩
  have hbody : body.length < body.length + 4 := by omega
  obtain ⟨stop, rest, final, hread⟩ : ∃ stop rest final,
      readLevel (body.length + 4) l [] ⟨body, 5, false⟩ = _ := readLevel_wildcards rfl hbody
  have hhead : readLevel (body.length + 4 + 1 + 1) (.new none 0) [] ⟨wildcards cs, 0, false⟩ =
      readLevel (body.length + 4) l [] ⟨body, 5, false⟩ :=
    readLevel_dotAll.trans readLevel_lineStart
  have hlength : (wildcards cs).length + 1 = body.length + 4 + 1 + 1 := by
    simp [wildcards, body]
  let items : List Expression := .flags [⟨.dotAll, true⟩] :: .anchor (.one 4) .lineStart ::
    (wildcardItems 5 cs ++ [.anchor final .lineEnd])
  have hclose : Level.close
      { l with items := .anchor final .lineEnd :: (wildcardItems 5 cs).reverse ++ l.items } stop =
      .concat ⟨0, stop⟩ items := by
    simp [Level.close, Level.branch, Expression.ofItems, l, items]
  have hitems : ∀ item ∈ items, tooDeep? (depthLimit - 1) item = none := by
    simp only [items, List.forall_mem_cons, List.forall_mem_append, List.not_mem_nil,
      false_implies, implies_true, and_true]
    exact ⟨rfl, rfl, fun item => tooDeep?_of_mem_wildcardItems, rfl⟩
  have hdeep : tooDeep? depthLimit (.concat ⟨0, stop⟩ items) = none := anyTooDeep?_eq_none hitems
  refine ⟨⟨0, stop⟩, final, ?_⟩
  rw [Expression.ofText, hlength]
  simp only [Cursor.ofText, hhead, hread, hclose, hdeep, items]

/-! ## Meaning -/

/-- The pattern that stands for one character: any run, any character, or the character. -/
def wildcardPart (c : Char) : Pattern :=
  if c == '%' then .times (.oneOf CharSet.full) 0 none
  else if c == '_' then .oneOf CharSet.full
  else .char c

/-- The pattern that a text with wildcards stands for. -/
def wildcardPattern (cs : List Char) : Pattern :=
  Pattern.sequence (.empty :: .check .textStart :: (cs.map wildcardPart ++ [.check .textEnd]))

/-- The flags behind the head of the expression. -/
def wildcardFlags : Flags := Flags.initial.change ⟨.dotAll, true⟩

theorem meaning_wildcardItem (o : Nat) (c : Char) :
    (wildcardItem o c).meaning wildcardFlags = .ok (wildcardPart c, wildcardFlags) := by
  rw [wildcardItem, wildcardPart]
  split
  · rfl
  · split <;> rfl

theorem meaningOfAll_wildcardItems (o : Nat) (cs : List Char) (final : Stretch) :
    Expression.meaningOfAll wildcardFlags (wildcardItems o cs ++ [.anchor final .lineEnd]) =
      .ok (cs.map wildcardPart ++ [.check .textEnd], wildcardFlags) := by
  induction cs generalizing o with
  | nil => rfl
  | cons c cs ih =>
    rw [wildcardItems, List.cons_append, Expression.meaningOfAll, meaning_wildcardItem]
    simp only [ih]
    rfl

/-- The expression of a text with wildcards denotes the pattern of this text, which is refused only
if it is too big. -/
theorem ofText?_wildcards (cs : List Char) :
    Pattern.ofText? (wildcards cs) = (wildcardPattern cs).checked := by
  obtain ⟨place, final, hread⟩ := ofText_wildcards cs
  have hmeaning : Expression.meaning Flags.initial (.concat place
      (.flags [⟨.dotAll, true⟩] :: .anchor (.one 4) .lineStart ::
        (wildcardItems 5 cs ++ [.anchor final .lineEnd]))) =
      .ok (wildcardPattern cs, wildcardFlags) := by
    have hitems := meaningOfAll_wildcardItems 5 cs final
    rw [wildcardFlags] at hitems
    simp only [Expression.meaning, Expression.meaningOfAll, Flags.changeAll, List.foldl, hitems]
    rfl
  rw [Pattern.ofText?, hread]
  simp only [hmeaning]

end Value

end Compliance
