import Compliance.Command.Answer
import Compliance.Proofs.Evidence.Document
import Compliance.Proofs.Rule.Writable

/-!
# Compliance.Proofs.Decision.Written

Records hold the decision itself: an instant that comes in as a text can be written again.

* `Instant.exists_rfc3339_of_ofText?` — what is read from a text has a form that gives it back.
* `Decision.record_of_document`       — the record of a decision with a document holds it.
* `Decision.written_of_texts`         — rules and decisions whose instants come from texts.
-/

namespace Compliance

/-- What is read from a text can be written, and what is written reads as the same moment with the
same offset. -/
theorem Instant.exists_rfc3339_of_ofText? {cs : List Char} {t : Instant}
    (h : Instant.ofText? cs = some t) :
    ∃ s, t.rfc3339? = some s ∧ Instant.ofText? s.toList = some t := by
  have hwritable : t.isWritable = true := Instant.isWritable_of_ofText? h
  have hform : t.rfc3339? = some t.text := by rw [Instant.rfc3339?_eq, if_pos hwritable]
  exact ⟨t.text, hform, Instant.ofText?_text hwritable⟩

theorem Decision.record_of_document {d : Decision} {j : Json} (h : d.document = .ok j) (r : Rule) :
    d.toJson? = some j ∧ (record r d).field? "decision" = some j := by
  constructor
  · rw [toJson?, h]
    rfl
  · rw [record, Json.field?_ofFields, h]
    rfl

/-- An instant that is read from a text can be written, and what is written reads as the same moment
with the same offset. Hence a rule that is read has a text. As of an instant that the flags or the
settings give, each decision on the rule has a document, which its record holds, under whatever
name; and each instant in its evidence can be written. -/
theorem Decision.written_of_texts :
    (∀ (cs : List Char) (t : Instant), Instant.ofText? cs = some t →
      ∃ s, t.rfc3339? = some s ∧ Instant.ofText? s.toList = some t) ∧
    ∀ (source : String) (r : Rule), Rule.parse source = .ok r →
      r.render? = some r.render ∧
      ∀ (i : Invocation) (settings : Settings) (w : World) (now : Instant),
        (i.manner settings).now.isSome = true →
        w.instantOf (i.manner settings).now = .ok now →
        ∀ (context : Context) (functions : FunctionTable) (d : Decision),
          r.decide? ⟨context, now, functions⟩ = some d →
          (∀ id : Option String, ∃ j, ({ d with ruleId := id } : Decision).toJson? = some j ∧
            (record r { d with ruleId := id }).field? "decision" = some j) ∧
          ∀ n ∈ d.outcome.nodes, ∀ t, n.details.instant? = some t → t.rfc3339?.isSome = true := by
  refine ⟨fun cs t h => Instant.exists_rfc3339_of_ofText? h, fun source r hparse => ?_⟩
  refine ⟨Rule.render?_of_isWritable (Rule.isWritable_of_parse hparse), ?_⟩
  intro i settings w now hgiven hnow context functions d hd
  obtain ⟨text, htext⟩ := Option.isSome_iff_exists.1 hgiven
  -- the clock is not asked: the instant is read from the text
  obtain ⟨s, hs, -⟩ : ∃ s, now.rfc3339? = some s ∧ Instant.ofText? s.toList = some now := by
    rw [htext, World.instantOf] at hnow
    split at hnow
    · rename_i t ht
      obtain rfl : t = now := Except.ok.inj hnow
      exact Instant.exists_rfc3339_of_ofText? ht
    · cases hnow
  have hwritable : now.isWritable = true := by
    rw [Instant.rfc3339?_eq] at hs
    split at hs
    · assumption
    · cases hs
  refine ⟨fun id => ?_, fun n hn t ht => ?_⟩
  · obtain ⟨j, hj⟩ := (Decision.exists_document_iff hd id).2 hwritable
    exact ⟨j, Decision.record_of_document hj r⟩
  · have hjustified : d.outcome.Justified now := by
      rw [Rule.eq_of_decide? hd]
      exact @Rule.evaluate_justified ⟨context, now, functions⟩ r
    rw [hjustified.instant_eq hn ht, hs]
    rfl

/-- A leap second ahead of UTC, given by the settings, and an instant of the year 0 whose moment in
UTC lies before it. -/
theorem Decision.written_of_texts_leapSecond :
    ∃ (r : Rule) (now : Instant) (s : String) (d : Decision),
      Instant.ofText? "2017-01-01 05:29:60.5+05:30".toList = some now ∧ now.rfc3339? = some s ∧
      Instant.ofText? s.toList = some now ∧
      Rule.parse "WHEN due AFTER 0000-01-01T00:00:00+05:30 THEN MUST a" = .ok r ∧
      r.render? = some r.render ∧
      r.decide? ⟨⟨[("due", .text "2017-01-01")]⟩, now, .standard⟩ = some d ∧
      (∃ j, ({ d with ruleId := some "R1" } : Decision).toJson? = some j ∧
        (record r { d with ruleId := some "R1" }).field? "decision" = some j) ∧
      ∀ n ∈ d.outcome.nodes, ∀ t, n.details.instant? = some t → t.rfc3339?.isSome = true := by
  have hscan : Token.scan "WHEN due AFTER 0000-01-01T00:00:00+05:30 THEN MUST a" =
      .ok [⟨.word "WHEN", ⟨1, 1⟩⟩, ⟨.word "due", ⟨1, 6⟩⟩, ⟨.word "AFTER", ⟨1, 10⟩⟩,
        ⟨.instant "0000-01-01T00:00:00+05:30", ⟨1, 16⟩⟩, ⟨.word "THEN", ⟨1, 42⟩⟩,
        ⟨.word "MUST", ⟨1, 47⟩⟩, ⟨.word "a", ⟨1, 52⟩⟩, ⟨.endOfInput, ⟨1, 53⟩⟩] := by decide +kernel
  have hparse : Rule.parse "WHEN due AFTER 0000-01-01T00:00:00+05:30 THEN MUST a" =
      .ok ⟨.timeTest (.variable "due") .after
        (.instant ⟨-62167239000000000000, 19800, by decide⟩),
        .consequence (.truthiness (.variable "a"))⟩ :=
    Rule.parse_of_read hscan (by decide +kernel)
  have hnow : Instant.ofText? "2017-01-01 05:29:60.5+05:30".toList =
      some ⟨1483228799999999999, 19800, by decide⟩ := by decide +kernel
  obtain ⟨s, hs, hback⟩ := Decision.written_of_texts.1 _ _ hnow
  obtain ⟨hrender, hwritten⟩ := Decision.written_of_texts.2 _ _ hparse
  obtain ⟨hrecord, hnodes⟩ := hwritten
    ⟨none, false, none, some "canon.toml", .eval "rule.canon" "data.json"⟩
    ⟨some "2017-01-01 05:29:60.5+05:30", some .json⟩ ⟨fun _ => .ok "", .epoch⟩ _ rfl
    (show World.instantOf _ (some _) = _ by rw [World.instantOf, hnow])
    ⟨[("due", .text "2017-01-01")]⟩ .standard _ rfl
  exact ⟨_, _, s, _, hnow, hs, hback, hparse, hrender, rfl, hrecord _, hnodes⟩

end Compliance
