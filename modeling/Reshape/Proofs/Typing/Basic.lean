import Mathlib.Data.List.Forall2
import Reshape.Record.Basic

/-!
# Well-typed values and records

Values carry no types, so that nothing at run time checks what a field holds.
`Value.HasType` says which values belong to a type, and a record is well typed if
it has one value of the right type for each field.
-/

namespace Reshape

/-! ## Values -/

namespace Value

/-- An option holds `null` or the value of its item, without a mark of its own. -/
inductive HasType : Value → FieldType → Prop where
  | bool (value : Bool) : HasType (.bool value) .bool
  | int (type : IntType) (value : type.Carrier) : HasType (.int type value) (.int type)
  | f32 (value : Single) : HasType (.f32 value) .f32
  | f64 (value : Double) : HasType (.f64 value) .f64
  | string (value : String) : HasType (.string value) .string
  | uuid (value : Uuid) : HasType (.uuid value) .uuid
  | timestamp (value : Timestamp) : HasType (.timestamp value) .timestamp
  | json (value : Json) : HasType (.json value) .json
  | list {item : FieldType} {items : List Value} :
      (∀ value ∈ items, HasType value item) → HasType (.list items) (.list item)
  | absent (item : FieldType) : HasType .null (.option item)
  | present {item : FieldType} {value : Value} :
      HasType value item → HasType value (.option item)

namespace HasType

theorem list_iff {value : Value} {item : FieldType} :
    value.HasType (.list item) ↔
      ∃ items, value = .list items ∧ ∀ value ∈ items, value.HasType item := by
  constructor
  · intro h
    cases h with
    | list hitems => exact ⟨_, rfl, hitems⟩
  · rintro ⟨items, rfl, hitems⟩
    exact .list hitems

theorem option_iff {value : Value} {item : FieldType} :
    value.HasType (.option item) ↔ value = .null ∨ value.HasType item := by
  constructor
  · intro h
    cases h with
    | absent => exact .inl rfl
    | present hvalue => exact .inr hvalue
  · rintro (rfl | hvalue)
    · exact .absent item
    · exact .present hvalue

/-- Only an option holds `null`. -/
theorem isOption_of_null {type : FieldType} (h : Value.null.HasType type) :
    ∃ item, type = .option item := by
  cases h with
  | absent item => exact ⟨item, rfl⟩
  | present _ => exact ⟨_, rfl⟩

end HasType

theorem zero_hasType (type : FieldType) : (zero type).HasType type := by
  cases type with
  | bool => exact .bool false
  | int type => exact .int type type.zero
  | f32 => exact .f32 _
  | f64 => exact .f64 _
  | string => exact .string ""
  | uuid => exact .uuid Uuid.nil
  | timestamp => exact .timestamp Timestamp.epoch
  | json => exact .json .null
  | list item => exact .list (by simp)
  | option item => exact .absent item

theorem isNull_iff {value : Value} : value.isNull = true ↔ value = .null := by
  cases value <;> simp [isNull]

end Value

/-! ## Records -/

namespace Record

theorem hasSchema_iff {record : Record} {schema : Schema} :
    record.hasSchema schema = true ↔ record.schema = schema := by
  simp [hasSchema]

def Complete (record : Record) : Prop :=
  record.values.length = record.schema.fields.length

def WellTyped (record : Record) : Prop :=
  List.Forall₂ (fun field value => value.HasType field.type)
    record.schema.fields record.values

theorem WellTyped.complete {record : Record} (h : record.WellTyped) :
    record.Complete :=
  (List.Forall₂.length_eq h).symm

theorem WellTyped.hasType {record : Record} (h : record.WellTyped) {index : Nat}
    {field : Field} {value : Value}
    (hfield : record.schema.fields[index]? = some field)
    (hvalue : record.values[index]? = some value) : value.HasType field.type := by
  obtain ⟨hindex, rfl⟩ := List.getElem?_eq_some_iff.mp hfield
  obtain ⟨hindex', rfl⟩ := List.getElem?_eq_some_iff.mp hvalue
  exact h.get hindex hindex'

theorem Complete.getElem? {record : Record} (h : record.Complete) {index : Nat}
    {field : Field} (hfield : record.schema.fields[index]? = some field) :
    ∃ value, record.values[index]? = some value := by
  obtain ⟨hindex, -⟩ := List.getElem?_eq_some_iff.mp hfield
  exact ⟨_, List.getElem?_eq_getElem (h ▸ hindex)⟩

/-- A record is told by the value of each of its fields. -/
theorem Complete.eq_of_getElem? {record : Record} (hcomplete : record.Complete)
    {fill : Field → Value}
    (h : ∀ (index : Nat) (field : Field) (value : Value),
      record.schema.fields[index]? = some field → record.values[index]? = some value →
      fill field = value) :
    (⟨record.schema, record.schema.fields.map fill⟩ : Record) = record := by
  obtain ⟨schema, values⟩ := record
  congr
  refine List.ext_getElem? fun index => ?_
  rw [List.getElem?_map]
  cases hfield : schema.fields[index]? with
  | none =>
      have hlength : values.length ≤ index :=
        hcomplete.symm ▸ List.getElem?_eq_none_iff.mp hfield
      exact (List.getElem?_eq_none hlength).symm
  | some field =>
      obtain ⟨value, hvalue⟩ := hcomplete.getElem? hfield
      rw [hvalue, Option.map_some, h index field value hfield hvalue]

theorem wellTyped_map {schema : Schema} {fill : Field → Value}
    (h : ∀ field ∈ schema.fields, (fill field).HasType field.type) :
    WellTyped ⟨schema, schema.fields.map fill⟩ := by
  unfold WellTyped
  rw [List.forall₂_map_right_iff, List.forall₂_same]
  exact h

theorem zeroed_wellTyped (schema : Schema) : (zeroed schema).WellTyped :=
  wellTyped_map fun field _ => Value.zero_hasType field.type

end Record

end Reshape
