import Reshape.Proofs.Transformer.Outcome
import Reshape.Proofs.Transformer.Run

/-!
# The strict policy refines the permissive one

A policy changes neither the outcome of a field nor the value that comes of it, only
whether an outcome stops the transformation.  Under a permissive policy no outcome
does; under a strict one the faults do, and the first of them is the error.
-/

namespace Reshape.Transformer

variable {transformer : Transformer} {record : Record} {values : List Value}
  {field : Field} {policy : Policy}

/-! ## Faults -/

/-- The faults of a destination field, each with the error that it is. -/
inductive Fault (transformer : Transformer) (values : List Value) (field : Field) :
    TransformError → Prop where
  | unresolved :
      transformer.mapping.isSkipped field.name = false →
      transformer.source.resolve? (transformer.mapping.sourceName field.name) = none →
      Fault transformer values field
        (.unresolvedField transformer.destination.name field.name)
  | uncoercible (found : FieldMatch) (value : Value) :
      transformer.mapping.isSkipped field.name = false →
      transformer.source.resolve? (transformer.mapping.sourceName field.name) =
        some found →
      values[found.index]? = some value →
      value.coerce found.field.type field.type = .skipped →
      Fault transformer values field
        (.coercionFailed transformer.destination.name field.name
          found.field.type field.type)

def Faulty (transformer : Transformer) (values : List Value) (field : Field) : Prop :=
  ∃ error, transformer.Fault values field error

private theorem not_faulty_of_skipped (h : transformer.mapping.isSkipped field.name = true) :
    ¬transformer.Faulty values field := by
  rintro ⟨_, hfault⟩
  cases hfault with
  | unresolved hkept _ => simp [h] at hkept
  | uncoercible _ _ hkept _ _ _ => simp [h] at hkept

/-- In particular a field whose source is an absent option has no fault. -/
private theorem not_faulty_of_coerced {found : FieldMatch} {value : Value}
    (hfound : transformer.sourceField? field = some found)
    (hvalue : values[found.index]? = some value)
    (h : value.coerce found.field.type field.type ≠ .skipped) :
    ¬transformer.Faulty values field := by
  rintro ⟨_, hfault⟩
  cases hfault with
  | unresolved _ hnone =>
      rw [sourceField?, hnone] at hfound
      cases hfound
  | uncoercible _ _ _ hfound' hvalue' hcoercion =>
      obtain rfl := Option.some.inj (hfound.symm.trans hfound')
      obtain rfl := Option.some.inj (hvalue.symm.trans hvalue')
      exact h hcoercion

/-! ## Fields under a policy -/

theorem outcome_withPolicy :
    (transformer.withPolicy policy).outcome values field =
      transformer.outcome values field := rfl

theorem fieldError?_permissive (hschema : record.schema = transformer.source)
    (hcomplete : record.Complete) (field : Field) :
    (transformer.withPolicy .permissive).fieldError? record.values field = none := by
  unfold fieldError?
  rw [outcome_withPolicy]
  rcases outcome_cases hschema hcomplete field with
    ⟨-, houtcome⟩ | ⟨-, -, houtcome⟩ | ⟨-, found, value, -, -, houtcome⟩
  · rw [houtcome]
    rfl
  · rw [houtcome]
    rfl
  · rw [houtcome]
    cases value.coerce found.field.type field.type <;> rfl

theorem fieldError?_strict_eq_some_iff (hschema : record.schema = transformer.source)
    (hcomplete : record.Complete) {error : TransformError} :
    (transformer.withPolicy .strict).fieldError? record.values field = some error ↔
      transformer.Fault record.values field error := by
  unfold fieldError?
  rw [outcome_withPolicy]
  constructor
  · intro h
    rcases outcome_cases hschema hcomplete field with
      ⟨-, houtcome⟩ | ⟨hkept, hfound, houtcome⟩ |
        ⟨hkept, found, value, hfound, hvalue, houtcome⟩
    · rw [houtcome] at h
      cases h
    · rw [houtcome] at h
      cases h
      exact .unresolved hkept hfound
    · rw [houtcome] at h
      cases hcoercion : value.coerce found.field.type field.type with
      | skipped =>
          rw [hcoercion] at h
          cases h
          exact .uncoercible found value hkept hfound hvalue hcoercion
      | assigned _ | absent =>
          rw [hcoercion] at h
          cases h
  · intro hfault
    cases hfault with
    | unresolved hkept hfound =>
        rw [outcome_of_unresolved hkept hfound]
        rfl
    | uncoercible _ _ hkept hfound hvalue hcoercion =>
        rw [outcome_of_resolved hkept hfound hvalue, hcoercion]
        rfl

theorem fieldError?_strict_eq_none_iff (hschema : record.schema = transformer.source)
    (hcomplete : record.Complete) :
    (transformer.withPolicy .strict).fieldError? record.values field = none ↔
      ¬transformer.Faulty record.values field := by
  rw [Option.eq_none_iff_forall_ne_some, Faulty, not_exists]
  exact forall_congr' fun error =>
    not_congr (fieldError?_strict_eq_some_iff hschema hcomplete)

/-! ## Transformations under a policy -/

theorem transform_permissive (hschema : record.schema = transformer.source)
    (hcomplete : record.Complete) :
    (transformer.withPolicy .permissive).transform (some record) =
      .ok ⟨transformer.destination,
        transformer.destination.fields.map (transformer.filled record.values)⟩ :=
  transform_eq_ok_iff.mpr
    ⟨hschema, fun field _ => fieldError?_permissive hschema hcomplete field, rfl⟩

theorem transform_of_permissive (hpolicy : transformer.mapping.policy = .permissive)
    (hschema : record.schema = transformer.source) (hcomplete : record.Complete) :
    transformer.transform (some record) =
      .ok ⟨transformer.destination,
        transformer.destination.fields.map (transformer.filled record.values)⟩ := by
  have hself : transformer.withPolicy .permissive = transformer := by
    rw [← hpolicy]
    rfl
  rw [← transform_permissive hschema hcomplete, hself]

theorem transform_strict_eq_ok_iff (hschema : record.schema = transformer.source)
    (hcomplete : record.Complete) {out : Record} :
    (transformer.withPolicy .strict).transform (some record) = .ok out ↔
      (∀ field ∈ transformer.destination.fields,
          ¬transformer.Faulty record.values field) ∧
        out = ⟨transformer.destination,
          transformer.destination.fields.map (transformer.filled record.values)⟩ := by
  rw [transform_eq_ok_iff]
  constructor
  · rintro ⟨-, hfields, hout⟩
    exact ⟨fun field hfield =>
      (fieldError?_strict_eq_none_iff hschema hcomplete).mp (hfields field hfield), hout⟩
  · rintro ⟨hfields, hout⟩
    exact ⟨hschema, fun field hfield =>
      (fieldError?_strict_eq_none_iff hschema hcomplete).mpr (hfields field hfield), hout⟩

theorem transform_strict_eq_error_iff (hschema : record.schema = transformer.source)
    (hcomplete : record.Complete) {error : TransformError} :
    (transformer.withPolicy .strict).transform (some record) = .error error ↔
      ∃ before field after,
        transformer.destination.fields = before ++ field :: after ∧
          (∀ earlier ∈ before, ¬transformer.Faulty record.values earlier) ∧
          transformer.Fault record.values field error := by
  rw [transform_eq_error_iff]
  constructor
  · rintro (⟨hother, -⟩ | ⟨-, before, field, after, hfields, hbefore, herror⟩)
    · exact absurd hschema hother
    · exact ⟨before, field, after, hfields,
        fun earlier hearlier =>
          (fieldError?_strict_eq_none_iff hschema hcomplete).mp (hbefore earlier hearlier),
        (fieldError?_strict_eq_some_iff hschema hcomplete).mp herror⟩
  · rintro ⟨before, field, after, hfields, hbefore, hfault⟩
    exact .inr ⟨hschema, before, field, after, hfields,
      fun earlier hearlier =>
        (fieldError?_strict_eq_none_iff hschema hcomplete).mpr (hbefore earlier hearlier),
      (fieldError?_strict_eq_some_iff hschema hcomplete).mpr hfault⟩

theorem strict_refines_permissive (transformer : Transformer) (record : Record)
    (hschema : record.schema = transformer.source) (hcomplete : record.Complete) :
    ∃ out,
      (transformer.withPolicy .permissive).transform (some record) = .ok out ∧
        (∀ result,
          (transformer.withPolicy .strict).transform (some record) = .ok result →
            result = out) ∧
        ((∃ error,
            (transformer.withPolicy .strict).transform (some record) = .error error) ↔
          ∃ field ∈ transformer.destination.fields,
            transformer.Faulty record.values field) ∧
        (∀ error,
          (transformer.withPolicy .strict).transform (some record) = .error error ↔
            ∃ before field after,
              transformer.destination.fields = before ++ field :: after ∧
                (∀ earlier ∈ before, ¬transformer.Faulty record.values earlier) ∧
                transformer.Fault record.values field error) ∧
        (∀ field : Field, transformer.mapping.isSkipped field.name = true →
          ¬transformer.Faulty record.values field) ∧
        ∀ (field : Field) (found : FieldMatch) (value : Value),
          transformer.source.resolve? (transformer.mapping.sourceName field.name) =
            some found →
          record.values[found.index]? = some value →
          value.coerce found.field.type field.type = .absent →
          ¬transformer.Faulty record.values field := by
  refine ⟨_, transform_permissive hschema hcomplete, ?_, ?_, ?_, ?_, ?_⟩
  · intro result hresult
    exact ((transform_strict_eq_ok_iff hschema hcomplete).mp hresult).2
  · constructor
    · rintro ⟨error, herror⟩
      obtain ⟨before, field, after, hfields, -, hfault⟩ :=
        (transform_strict_eq_error_iff hschema hcomplete).mp herror
      exact ⟨field, by simp [hfields], error, hfault⟩
    · rintro ⟨field, hfield, hfaulty⟩
      cases hrun : (transformer.withPolicy .strict).transform (some record) with
      | error error => exact ⟨error, rfl⟩
      | ok out =>
          obtain ⟨hnone, -⟩ := (transform_strict_eq_ok_iff hschema hcomplete).mp hrun
          exact absurd hfaulty (hnone field hfield)
  · exact fun error => transform_strict_eq_error_iff hschema hcomplete
  · exact fun field => not_faulty_of_skipped
  · intro field found value hfound hvalue hcoercion
    exact not_faulty_of_coerced hfound hvalue (by simp [hcoercion])

/-- The absent option is no fault, and the fault after the first one is not the error. -/
theorem strict_refines_permissive_first_fault :
    let source : Schema :=
      ⟨"Draft", [⟨"a", .option .string, []⟩, ⟨"b", .string, []⟩, ⟨"c", .uuid, []⟩]⟩
    let destination : Schema :=
      ⟨"Final", [⟨"a", .string, []⟩, ⟨"b", .bool, []⟩, ⟨"c", .f64, []⟩]⟩
    let transformer : Transformer := ⟨source, destination, {}⟩
    let record : Record := ⟨source, [.null, .string "x", .uuid Uuid.nil]⟩
    record.schema = transformer.source ∧ record.Complete ∧
      (transformer.withPolicy .permissive).transform (some record) =
        .ok ⟨destination, [.string "", .bool false, .f64 (Floating.zero _)]⟩ ∧
      (transformer.withPolicy .strict).transform (some record) =
        .error (.coercionFailed "Final" "b" .string .bool) := by
  intro source destination transformer record
  obtain ⟨-, -, -, -, hstrict, -, habsent⟩ :=
    strict_refines_permissive transformer record rfl rfl
  refine ⟨rfl, rfl, by with_unfolding_all rfl, ?_⟩
  refine (hstrict _).mpr ⟨[⟨"a", .string, []⟩], ⟨"b", .bool, []⟩, _, rfl, ?_, ?_⟩
  · intro earlier hearlier
    rw [List.mem_singleton] at hearlier
    subst hearlier
    exact habsent _ ⟨0, ⟨"a", .option .string, []⟩, .exact⟩ .null rfl rfl rfl
  · exact .uncoercible ⟨1, ⟨"b", .string, []⟩, .exact⟩ (.string "x") rfl rfl rfl rfl

end Reshape.Transformer
