import Reshape.Proofs.Coercion.Verdict
import Reshape.Proofs.Transformer.Outcome
import Reshape.Proofs.Transformer.Run

/-!
# What the types say of a transformation

Where no text is read as a UUID or as a timestamp, a transformer accepts every well-typed
record of its source schema or none of them, and in the second case it has one error for
all.
-/

namespace Reshape.Transformer

variable {transformer : Transformer} {record other : Record} {field : Field}

def ReadsNoText (transformer : Transformer) : Prop :=
  ∀ field ∈ transformer.destination.fields,
    transformer.mapping.isSkipped field.name = false →
      ∀ found,
        transformer.source.resolve? (transformer.mapping.sourceName field.name) = some found →
        ¬found.field.type.ReadsText field.type

/-! ## Fields -/

/-- Of a coercion only whether it skips the value is reported. -/
private theorem error?_resolved_congr {found : FieldMatch} {first second : Coercion}
    (h : first = .skipped ↔ second = .skipped) :
    (Outcome.resolved found first).error? transformer field =
      (Outcome.resolved found second).error? transformer field := by
  cases first with
  | skipped => rw [h.mp rfl]
  | assigned _ | absent =>
      cases second with
      | skipped => cases h.mpr rfl
      | assigned _ | absent => rfl

private theorem fieldError?_eq_of_wellTyped (hrecord : record.WellTyped) (hother : other.WellTyped)
    (hschema : record.schema = transformer.source)
    (hsame : other.schema = transformer.source)
    (hreads : transformer.mapping.isSkipped field.name = false →
      ∀ found, transformer.sourceField? field = some found →
        ¬found.field.type.ReadsText field.type) :
    transformer.fieldError? record.values field =
      transformer.fieldError? other.values field := by
  unfold fieldError?
  rcases outcome_cases hschema hrecord.complete field with
    ⟨hskipped, houtcome⟩ | ⟨hkept, hnone, houtcome⟩ |
      ⟨hkept, found, value, hfound, hvalue, houtcome⟩
  · rw [houtcome, outcome_of_skipped hskipped]
  · rw [houtcome, outcome_of_unresolved hkept hnone]
  · have hfield := getElem?_of_sourceField? hfound
    obtain ⟨held, hheld⟩ := hother.complete.getElem? (hsame ▸ hfield)
    have hvalue_type := hrecord.hasType (hschema ▸ hfield) hvalue
    have hheld_type := hother.hasType (hsame ▸ hfield) hheld
    rw [houtcome, outcome_of_resolved hkept hfound hheld]
    refine error?_resolved_congr ?_
    rw [hvalue_type.coerce_eq_skipped_iff (hreads hkept found hfound),
      hheld_type.coerce_eq_skipped_iff (hreads hkept found hfound)]

/-! ## Records -/

theorem transform_same_verdict (hreads : transformer.ReadsNoText)
    (hrecord : record.WellTyped) (hother : other.WellTyped)
    (hschema : record.schema = transformer.source)
    (hsame : other.schema = transformer.source) :
    (∃ out otherOut, transformer.transform (some record) = .ok out ∧
        transformer.transform (some other) = .ok otherOut) ∨
      ∃ error, transformer.transform (some record) = .error error ∧
        transformer.transform (some other) = .error error := by
  have hfields : ∀ field ∈ transformer.destination.fields,
      transformer.fieldError? record.values field =
        transformer.fieldError? other.values field := fun field hfield =>
    fieldError?_eq_of_wellTyped hrecord hother hschema hsame (hreads field hfield)
  cases hrun : transformer.transform (some record) with
  | ok out =>
      obtain ⟨-, hnone, -⟩ := transform_eq_ok_iff.mp hrun
      refine .inl ⟨out, _, rfl, transform_eq_ok_iff.mpr ⟨hsame, fun field hfield => ?_, rfl⟩⟩
      rw [← hfields field hfield]
      exact hnone field hfield
  | error error =>
      refine .inr ⟨error, rfl, transform_eq_error_iff.mpr (.inr ⟨hsame, ?_⟩)⟩
      rcases transform_eq_error_iff.mp hrun with
        ⟨hmismatch, -⟩ | ⟨-, before, field, after, hsplit, hbefore, herror⟩
      · exact absurd hschema hmismatch
      · refine ⟨before, field, after, hsplit, fun earlier hearlier => ?_, ?_⟩
        · rw [← hfields earlier (by simp [hsplit, hearlier])]
          exact hbefore earlier hearlier
        · rw [← hfields field (by simp [hsplit])]
          exact herror

theorem verdict_of_types :
    (∀ (source target : FieldType) (value : Value), ¬source.ReadsText target →
      value.HasType source →
      (value.coerce source target = .skipped ↔ ¬source.CoercibleTo target)) ∧
    ∀ (transformer : Transformer) (record other : Record), transformer.ReadsNoText →
      record.schema = transformer.source → other.schema = transformer.source →
      record.WellTyped → other.WellTyped →
      (∃ out otherOut, transformer.transform (some record) = .ok out ∧
          transformer.transform (some other) = .ok otherOut) ∨
        ∃ error, transformer.transform (some record) = .error error ∧
          transformer.transform (some other) = .error error := by
  constructor
  · intro source target value hreads hvalue
    exact hvalue.coerce_eq_skipped_iff hreads
  · intro transformer record other hreads hschema hsame hrecord hother
    exact transform_same_verdict hreads hrecord hother hschema hsame

/-- The absent option and the octets that are no text stop a strict transformer no more than
the present option and the octets of a letter; the text that is no flag stops it for both. -/
theorem verdict_of_types_octets :
    let source : Schema :=
      ⟨"Row", [⟨"a", .option .string, []⟩, ⟨"b", .list (.int .u8), []⟩, ⟨"c", .string, []⟩]⟩
    let destination : Schema :=
      ⟨"Cell", [⟨"a", .string, []⟩, ⟨"b", .string, []⟩, ⟨"c", .bool, []⟩]⟩
    let transformer : Transformer := ⟨source, destination, { policy := .strict }⟩
    let record : Record :=
      ⟨source, [.string "x", .list [.int .u8 ⟨104, by decide⟩], .string "true"]⟩
    let other : Record :=
      ⟨source, [.null, .list [.int .u8 ⟨255, by decide⟩], .string "y"]⟩
    transformer.ReadsNoText ∧ record.WellTyped ∧ other.WellTyped ∧
      (Value.null.coerce (.option .string) .string = .skipped ↔
        ¬FieldType.CoercibleTo (.option .string) .string) ∧
      transformer.transform (some record) =
        .error (.coercionFailed "Cell" "c" .string .bool) ∧
      transformer.transform (some other) =
        .error (.coercionFailed "Cell" "c" .string .bool) := by
  intro source destination transformer record other
  have hreads : transformer.ReadsNoText := by
    intro field hfield _ found _ htext
    generalize found.field.type = type at htext
    simp only [transformer, destination, List.mem_cons, List.not_mem_nil, or_false] at hfield
    rcases hfield with rfl | rfl | rfl <;> cases htext
  have hrecord : record.WellTyped :=
    .cons (.present (.string _))
      (.cons (.list (by simpa using .int _ _)) (.cons (.string _) .nil))
  have hother : other.WellTyped :=
    .cons (.absent _) (.cons (.list (by simpa using .int _ _)) (.cons (.string _) .nil))
  have herror : transformer.transform (some record) =
      .error (.coercionFailed "Cell" "c" .string .bool) := by
    with_unfolding_all rfl
  have hskips := verdict_of_types.1 (.option .string) .string .null nofun (.absent _)
  refine ⟨hreads, hrecord, hother, hskips, herror, ?_⟩
  rcases verdict_of_types.2 transformer record other hreads rfl rfl hrecord hother with
    ⟨out, -, hout, -⟩ | ⟨error, hfirst, hsecond⟩
  · rw [herror] at hout
    cases hout
  · rw [hsecond, ← hfirst, herror]

end Reshape.Transformer
