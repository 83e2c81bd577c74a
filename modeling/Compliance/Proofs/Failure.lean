import Compliance.Failure
import Compliance.Proofs.Text.Lines
import Compliance.Proofs.Value.Spelling

/-!
# Compliance.Proofs.Failure

Which failures take several lines to tell.

* `Failure.IsOneLine`           — the failures that take one line, by their causes.
* `Failure.isOneLine_message_iff` — their wordings have no line feed, and those of the others have.
-/

namespace Compliance

open Text (IsOneLine)

theorem Text.IsSolid.isOneLine {cs : List Char} (h : IsSolid cs) : IsOneLine cs :=
  fun hmem => absurd (h _ hmem) (by decide)

namespace Text

@[simp] theorem isOneLine_intDigits (z : Int) : IsOneLine (intDigits z) := by
  cases z <;> simp [intDigits]

theorem isOneLine_ofList {cs : List Char} : IsOneLine (String.ofList cs).toList ↔ IsOneLine cs := by
  rw [String.toList_ofList]

theorem isOneLine_prefixed {cs : List Char} {s : String} (h : IsOneLine cs) :
    IsOneLine (String.ofList cs ++ s).toList ↔ IsOneLine s.toList := by
  rw [String.toList_append, isOneLine_append, isOneLine_ofList]
  exact and_iff_right h

theorem isOneLine_suffixed {cs : List Char} {s : String} (h : IsOneLine cs) :
    IsOneLine (s ++ String.ofList cs).toList ↔ IsOneLine s.toList := by
  rw [String.toList_append, isOneLine_append, isOneLine_ofList]
  exact and_iff_left h

theorem isOneLine_around {cs : List Char} {s t : String} (h : IsOneLine cs) :
    IsOneLine (s ++ String.ofList cs ++ t).toList ↔ IsOneLine s.toList ∧ IsOneLine t.toList := by
  rw [String.toList_append, isOneLine_append, isOneLine_suffixed h]

end Text

/-! ## Numbers, instants and spans -/

@[simp] theorem Decimal.isOneLine_text (d : Decimal) : IsOneLine d.text.toList :=
  d.isSolid_text.isOneLine

namespace Instant

theorem isOneLine_fractionDigits (n : Nat) : IsOneLine (fractionDigits n) :=
  Text.isOneLine_of_forall (p := Char.isDigit) rfl fun _ => isDigit_of_mem_fractionDigits

theorem ne_signOf (z : Int) : '\n' ≠ signOf z := by
  rw [signOf]
  split <;> decide

@[simp] theorem isOneLine_display (t : Instant) : IsOneLine t.display.toList := by
  have hyear : IsOneLine (if t.date.year < 0 then ['-'] else []) := by split <;> decide
  simp only [display, String.toList_ofList, Text.isOneLine_append, Text.isOneLine_cons, threeParts,
    Text.isOneLine_padded, Text.isOneLine_digits]
  simp only [hyear, ne_signOf, ne_eq, Char.reduceEq, not_false_eq_true, and_true, true_and]
  split
  · decide
  · exact isOneLine_fractionDigits _

@[simp] theorem isOneLine_text (t : Instant) : IsOneLine t.text.toList := by
  by_cases h : t.isWritable = true
  · exact (isSolid_text h).isOneLine
  · rw [text, rfc3339?_eq, if_neg h]
    exact t.isOneLine_display

end Instant

@[simp] theorem SpanUnit.isOneLine_keyword (unit : SpanUnit) : IsOneLine unit.keyword.toList := by
  cases unit <;> decide

namespace Span

@[simp] theorem isOneLine_isoText (s : Span) : IsOneLine s.isoText.toList := by
  rw [isoText]
  split <;> simp

theorem isOneLine_unitText (amount : Nat) {unit : List Char} (h : IsOneLine unit) :
    IsOneLine (unitText amount unit) := by
  rw [unitText]
  split <;> simp [h]

@[simp] theorem isOneLine_unitsText (s : Span) : IsOneLine s.unitsText.toList := by
  simp only [unitsText, String.toList_ofList]
  split
  · decide
  · split <;> simp [isOneLine_unitText]

end Span

/-! ## Failures -/

theorem Overflow.isOneLine_message (o : Overflow) : IsOneLine o.message.toList := by
  cases o with
  | span amount unit =>
    refine (Text.isOneLine_suffixed (by decide)).2 ((Text.isOneLine_around (by decide)).2 ⟨?_, ?_⟩)
    · exact (Text.isOneLine_prefixed (by decide)).2
        (Text.isOneLine_ofList.2 (Text.isOneLine_intDigits amount))
    · exact unit.isOneLine_keyword
  | milliseconds ms =>
    exact (Text.isOneLine_suffixed (by decide)).2
      ((Text.isOneLine_prefixed (by decide)).2 ms.isOneLine_text)
  | moment ms =>
    exact (Text.isOneLine_suffixed (by decide)).2
      ((Text.isOneLine_prefixed (by decide)).2 ms.isOneLine_text)
  | sum t s =>
    exact (Text.isOneLine_suffixed (by decide)).2
      ((Text.isOneLine_around (by decide)).2 ⟨t.isOneLine_display, s.isOneLine_unitsText⟩)

theorem Value.isOneLine_typeName (v : Value) : IsOneLine v.typeName.toList := by
  cases v <;> exact Text.isOneLine_ofList.2 (by decide)

theorem Decimal.ReadError.isOneLine_message (e : Decimal.ReadError) :
    IsOneLine e.message.toList := by
  cases e with
  | scaleTooLarge scale =>
    exact (Text.isOneLine_suffixed (by decide)).2
      ((Text.isOneLine_prefixed (by decide)).2
        (Text.isOneLine_ofList.2 (Text.isOneLine_digits scale)))
  | _ => exact Text.isOneLine_ofList.2 (by decide)

/-- Does the value have one line where it is shown in a message? A text is shown as it is. -/
def Value.IsShownOnLine : Value → Prop
  | .text s => IsOneLine s.toList
  | _ => True

/-- The failures that take one line. An expression that is refused is repeated on a line of its own;
a text is shown as it is. -/
def Failure.IsOneLine : Failure → Prop
  | .unknownFunction name => Text.IsOneLine name.toList
  | .noValue name => Text.IsOneLine name.toList
  | .invalidPattern _ (.refused _ _) => False
  | .invalidPattern shown .tooBig => Text.IsOneLine shown.toList
  | .incomparable left right => left.IsShownOnLine ∧ right.IsShownOnLine
  | .notAnInstant v => v.IsShownOnLine
  | .numberOutOfRange text _ => Text.IsOneLine text.toList
  | .notASpan _ => True
  | .overflow _ => True
  | .notARecord _ => True

namespace Failure

theorem isOneLine_describe (v : Value) : Text.IsOneLine (describe v).toList ↔ v.IsShownOnLine := by
  have hkind {v : Value} (h : Text.IsOneLine v.stringify.toList) :
      Text.IsOneLine (v.typeName ++ " " ++ v.stringify).toList :=
    (Text.isOneLine_around (by decide)).2 ⟨v.isOneLine_typeName, h⟩
  cases v with
  | text s =>
    exact (Text.isOneLine_suffixed (by decide)).trans (Text.isOneLine_prefixed (by decide))
  | null => exact iff_of_true (hkind (Text.isOneLine_ofList.2 (by decide))) trivial
  | bool b =>
    refine iff_of_true (hkind ?_) trivial
    cases b <;> exact Text.isOneLine_ofList.2 (by decide)
  | number d => exact iff_of_true (hkind d.normalize.isOneLine_text) trivial
  | instant t => exact iff_of_true (hkind t.isOneLine_text) trivial
  | span s => exact iff_of_true (hkind s.isOneLine_isoText) trivial
  | list items => exact iff_of_true (Text.isOneLine_ofList.2 (by decide)) trivial
  | record fields => exact iff_of_true (Text.isOneLine_ofList.2 (by decide)) trivial

theorem isOneLine_shown (v : Value) : Text.IsOneLine (shown v).toList ↔ v.IsShownOnLine := by
  cases v with
  | text s =>
    exact (Text.isOneLine_suffixed (by decide)).trans (Text.isOneLine_prefixed (by decide))
  | _ => exact iff_of_true (Text.isOneLine_ofList.2 (by decide)) trivial

/-- A refusal of an expression begins with a line of its own. -/
theorem not_isOneLine_report (text : List Char) (r : Pattern.Refusal) :
    ¬ Text.IsOneLine (r.report text).toList := by
  have hbreak (first : List Char) {rest : List (List Char)} (h : rest ≠ []) :
      ['\n'] ∈ (first :: rest).intersperse ['\n'] := by
    cases rest with
    | nil => exact absurd rfl h
    | cons second rest => simp [List.intersperse]
  rw [Pattern.Refusal.report, String.toList_ofList, Text.IsOneLine, not_not, List.mem_flatten]
  simp only [List.append_assoc, List.singleton_append]
  exact ⟨['\n'], hbreak _ (by simp), List.mem_singleton.2 rfl⟩

/-- The wording of a failure is one line just in case the failure takes one. -/
theorem isOneLine_message_iff (f : Failure) : Text.IsOneLine f.message.toList ↔ f.IsOneLine := by
  cases f with
  | unknownFunction name => exact Text.isOneLine_prefixed (by decide)
  | noValue name => exact Text.isOneLine_prefixed (by decide)
  | invalidPattern shown cause =>
    have hparts : Text.IsOneLine (Failure.invalidPattern shown cause).message.toList ↔
        Text.IsOneLine shown.toList ∧ Text.IsOneLine cause.message.toList :=
      (Text.isOneLine_around (by decide)).trans
        (and_congr_left' (Text.isOneLine_prefixed (by decide)))
    rw [hparts]
    cases cause with
    | refused text r => exact iff_of_false (fun h => not_isOneLine_report text r h.2) id
    | tooBig =>
      have hlimit : Text.IsOneLine (toString Pattern.roomLimit).toList := by decide +kernel
      exact and_iff_left
        ((Text.isOneLine_suffixed (by decide)).2 ((Text.isOneLine_prefixed (by decide)).2 hlimit))
  | incomparable left right =>
    exact (Text.isOneLine_around (by decide)).trans
      (and_congr ((Text.isOneLine_prefixed (by decide)).trans (isOneLine_describe left))
        (isOneLine_describe right))
  | notAnInstant v => exact (Text.isOneLine_suffixed (by decide)).trans (isOneLine_shown v)
  | notASpan v =>
    exact iff_of_true ((Text.isOneLine_suffixed (by decide)).2 v.isOneLine_typeName) trivial
  | overflow o =>
    exact iff_of_true ((Text.isOneLine_prefixed (by decide)).2 o.isOneLine_message) trivial
  | numberOutOfRange text cause =>
    exact (Text.isOneLine_around (by decide)).trans
      ((and_iff_left cause.isOneLine_message).trans (Text.isOneLine_prefixed (by decide)))
  | notARecord data =>
    exact iff_of_true ((Text.isOneLine_prefixed (by decide)).2 data.isOneLine_typeName) trivial

end Failure

end Compliance
