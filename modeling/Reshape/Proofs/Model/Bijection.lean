import Reshape.Proofs.Model.Typing

/-!
# Members and instances, one for one

A declarable type has one member for each value that belongs to it, and reading a value
gives the member that stands for it or, where there is none, an error.  A model has one
instance for each complete record that it accepts, so that nothing is lost either way.
-/

namespace Reshape

/-! ## Members -/

namespace FieldType

variable {type : FieldType} {value : Value}

theorem ofValue_eq_ok_iff (h : type.isDeclarable = true) {member : type.Member} :
    type.ofValue value = .ok member ↔ value = type.toValue member := by
  constructor
  · intro hvalue
    exact (toValue_of_ofValue hvalue).symm
  · rintro rfl
    exact ofValue_toValue h member

theorem exists_ofValue_eq_error_iff :
    (∃ error, type.ofValue value = .error error) ↔ ¬value.HasType type := by
  rw [← exists_ofValue_iff]
  cases type.ofValue value with
  | error error => simp
  | ok member => simp

end FieldType

/-! ## Rows -/

namespace Row

variable {fields : List Field} {values : List Value} {record : String}

private theorem ofValues_cons_eq_ok_iff {field : Field} {value : Value} {member : field.type.Member}
    {row : Row fields} :
    ofValues record (field :: fields) (value :: values) = .ok (member, row) ↔
      field.type.ofValue value = .ok member ∧ ofValues record fields values = .ok row := by
  cases hvalue : field.type.ofValue value with
  | error cause => simp [ofValues, hvalue]
  | ok held =>
      constructor
      · intro h
        obtain ⟨rest, hrest, hrow⟩ :=
          Sequence.map_eq_ok_iff.mp ((ofValues_cons_of_ok hvalue).symm.trans h)
        cases hrow
        exact ⟨rfl, hrest⟩
      · rintro ⟨hmember, hrow⟩
        cases hmember
        exact (ofValues_cons_of_ok hvalue).trans (Sequence.map_eq_ok_iff.mpr ⟨row, hrow, rfl⟩)

/-- Each value is taken by the field at its place. -/
theorem toValues_of_ofValues {row : Row fields} (hlength : values.length = fields.length)
    (h : ofValues record fields values = .ok row) : toValues fields row = values := by
  induction fields generalizing values with
  | nil => exact (List.eq_nil_of_length_eq_zero hlength).symm
  | cons field fields ih =>
      obtain ⟨member, row⟩ := row
      cases values with
      | nil => cases hlength
      | cons value values =>
          obtain ⟨hvalue, hrow⟩ := ofValues_cons_eq_ok_iff.mp h
          rw [toValues, FieldType.toValue_of_ofValue hvalue, ih (Nat.succ.inj hlength) hrow]

end Row

/-! ## Instances -/

namespace Model

namespace Instance

variable {model : Model} {record : Record} {row : model.Instance}

theorem schema_of_ofRecord (h : ofRecord model record = .ok row) :
    record.schema = model.schema := by
  by_contra hschema
  have hrefused : ofRecord model record =
      .error (.schemaMismatch model.schema.name record.schema.name) :=
    if_neg (mt Record.hasSchema_iff.mp hschema)
  rw [hrefused] at h
  cases h

theorem toRecord_of_ofRecord (hcomplete : record.Complete)
    (h : ofRecord model record = .ok row) : row.toRecord = record := by
  have hschema := schema_of_ofRecord h
  rw [ofRecord_of_schema hschema] at h
  obtain ⟨schema, values⟩ := record
  obtain rfl : schema = model.schema := hschema
  exact congrArg (Record.mk model.schema) (Row.toValues_of_ofValues hcomplete h)

end Instance

theorem typed_bridge_bijective :
    (∀ type : FieldType, type.isDeclarable = true →
      (∀ member : type.Member, (type.toValue member).HasType type) ∧
      (∀ (member : type.Member) (value : Value),
        type.ofValue value = .ok member ↔ value = type.toValue member) ∧
      ∀ value : Value,
        (∃ error, type.ofValue value = .error error) ↔ ¬value.HasType type) ∧
    ∀ (model : Model) (row : model.Instance),
      Instance.ofRecord model row.toRecord = .ok row ∧
      ∀ record : Record, record.Complete →
        Instance.ofRecord model record = .ok row → row.toRecord = record := by
  refine ⟨fun type hdeclarable => ⟨type.toValue_hasType, ?_, ?_⟩, fun model row => ⟨?_, ?_⟩⟩
  · exact fun member value => FieldType.ofValue_eq_ok_iff hdeclarable
  · exact fun value => FieldType.exists_ofValue_eq_error_iff
  · exact row.ofRecord_toRecord
  · exact fun record => Instance.toRecord_of_ofRecord

/-- An item that is absent and one that is JSON `null` are kept apart, and a list is
neither. -/
theorem typed_bridge_bijective_nested :
    let type : FieldType := .option (.list (.option .json))
    let member : type.Member := some [none, some .null]
    let value : Value := .list [.null, .json .null]
    let model : Model := ⟨⟨"Row", [⟨"items", type, []⟩]⟩, by decide, by decide⟩
    let row : model.Instance := (member, ())
    let record : Record := ⟨model.schema, [value]⟩
    type.isDeclarable = true ∧ type.ofValue value = .ok member ∧
      (∃ error, type.ofValue (.list [.list []]) = .error error) ∧
      record.Complete ∧ Instance.ofRecord model record = .ok row ∧
      row.toRecord = record := by
  intro type member value model row record
  obtain ⟨hmembers, hmodels⟩ := typed_bridge_bijective
  obtain ⟨-, hok, herror⟩ := hmembers type (by decide)
  have hread : Instance.ofRecord model record = .ok row := by with_unfolding_all rfl
  have hmistyped : ¬(Value.list [.list []]).HasType type := by
    intro h
    obtain hnull | hlist := Value.HasType.option_iff.mp h
    · cases hnull
    · obtain ⟨_, hitems, hitem⟩ := Value.HasType.list_iff.mp hlist
      cases hitems
      cases hitem (.list []) (by simp) with
      | present hjson => cases hjson
  exact ⟨by decide, (hok member value).mpr rfl, (herror _).mpr hmistyped, rfl, hread,
    (hmodels model row).2 record rfl hread⟩

end Model

end Reshape
