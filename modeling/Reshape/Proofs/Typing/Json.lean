import Reshape.Proofs.Sequence
import Reshape.Proofs.Typing.Basic
import Reshape.Record.Json

/-!
# What is read from JSON is well typed

Reading takes only JSON of the form that the type asks for.  A value read as a type
belongs to it, and a record read under a schema is well typed and has that schema.
-/

namespace Reshape

/-! ## Forms -/

namespace Json

/-- The form of the JSON is one that the type is read from. -/
inductive HasForm : FieldType → Json → Prop where
  | json (held : Json) : HasForm .json held
  | option (item : FieldType) (held : Json) : HasForm (.option item) held
  | list (item : FieldType) (items : List Json) : HasForm (.list item) (.array items)
  | bool (value : Bool) : HasForm .bool (.bool value)
  | string (text : String) : HasForm .string (.string text)
  | f32 (value : Number) : HasForm .f32 (.number value)
  | f64 (value : Number) : HasForm .f64 (.number value)
  | int (type : IntType) (value : Int) (inRange : -2 ^ 63 ≤ value ∧ value < 2 ^ 64) :
      HasForm (.int type) (.number (.integer value inRange))
  | uuid (text : String) : HasForm .uuid (.string text)
  | timestamp (text : String) : HasForm .timestamp (.string text)

end Json

namespace Value

variable {type : FieldType} {json : Json} {value : Value}

theorem ofJson_of_not_hasForm (h : ¬json.HasForm type) :
    ofJson type json = .error (.typeMismatch type json.kind) := by
  cases type with
  | json => exact absurd (.json json) h
  | option item => exact absurd (.option item json) h
  | int type =>
      cases json with
      | number number =>
          cases number with
          | integer value inRange => exact absurd (.int type value inRange) h
          | float _ => rfl
      | null | bool _ | string _ | array _ | object _ => rfl
  | bool | f32 | f64 | string | uuid | timestamp | list _ =>
      cases json <;> first | rfl | exact absurd (by constructor) h

theorem hasForm_of_ofJson (h : ofJson type json = .ok value) : json.HasForm type := by
  by_contra hform
  rw [ofJson_of_not_hasForm hform] at h
  cases h

theorem ofJson_option_of_ne_null {item : FieldType} (h : json ≠ .null) :
    ofJson (.option item) json = ofJson item json := by
  cases json <;> first | rfl | exact absurd rfl h

/-! ## Values -/

theorem ofInt_eq_ok_iff {type : IntType} {number : Int} :
    ofInt type number = .ok value ↔
      ∃ h : type.Holds number, value = .int type ⟨number, h⟩ := by
  unfold ofInt
  split <;> simp [*, eq_comm]

theorem ofInt_eq_error_iff {type : IntType} {number : Int} {error : ValueError} :
    ofInt type number = .error error ↔
      ¬type.Holds number ∧ error = .outOfRange (.int type) number := by
  unfold ofInt
  split <;> simp [*, eq_comm]

private theorem hasType_of_ofInt {type : IntType} {number : Int}
    (h : ofInt type number = .ok value) : value.HasType (.int type) := by
  obtain ⟨hholds, rfl⟩ := ofInt_eq_ok_iff.mp h
  exact .int type _

theorem hasType_of_ofJson (h : ofJson type json = .ok value) : value.HasType type := by
  -- Only a list and an option are read by reading their item type.
  induction type generalizing json value with
  | option item ih =>
      by_cases hnull : json = .null
      · subst hnull
        cases h
        exact .absent item
      · rw [ofJson_option_of_ne_null hnull] at h
        exact .present (ih h)
  | list item ih =>
      cases hasForm_of_ofJson h with
      | list _ items =>
          obtain ⟨values, hvalues, rfl⟩ := Sequence.map_eq_ok_iff.mp h
          refine .list fun value hvalue => ?_
          obtain ⟨input, -, hinput⟩ := (Sequence.mem_iff_of_mapM hvalues).mp hvalue
          exact ih hinput
  | int type =>
      cases hasForm_of_ofJson h with
      | int _ number inRange => exact hasType_of_ofInt h
  | uuid =>
      cases hasForm_of_ofJson h with
      | uuid text =>
          cases hparse : Uuid.parse text <;> simp only [ofJson, hparse] at h <;> cases h
          exact .uuid _
  | timestamp =>
      cases hasForm_of_ofJson h with
      | timestamp text =>
          cases hparse : Timestamp.parse text <;> simp only [ofJson, hparse] at h <;> cases h
          exact .timestamp _
  | bool | f32 | f64 | string | json =>
      cases hasForm_of_ofJson h
      cases h
      constructor

end Value

/-! ## Records -/

namespace Record

private theorem hasType_of_readField {members : List (String × Json)} {field : Field}
    {value : Value} (h : readField members field = .ok value) :
    value.HasType field.type := by
  unfold readField at h
  split at h
  · cases h
    exact Value.zero_hasType field.type
  · split at h
    · cases h
      exact Value.zero_hasType field.type
    · split at h
      · rename_i hvalue
        cases h
        exact Value.hasType_of_ofJson hvalue
      · cases h

theorem ofJson_eq_ok_iff {schema : Schema} {json : Json} {record : Record} :
    ofJson schema json = .ok record ↔
      ∃ members values, json = .object members ∧
        schema.fields.mapM (readField members) = .ok values ∧
        record = ⟨schema, values⟩ := by
  cases json with
  | object members =>
      simp only [ofJson, Sequence.map_eq_ok_iff, Json.object.injEq, exists_and_left]
      constructor
      · rintro ⟨values, hvalues, rfl⟩
        exact ⟨members, rfl, values, hvalues, rfl⟩
      · rintro ⟨_, rfl, values, hvalues, rfl⟩
        exact ⟨values, hvalues, rfl⟩
  | null | bool value | number value | string value | array items => simp [ofJson]

theorem schema_of_ofJson {schema : Schema} {json : Json} {record : Record}
    (h : ofJson schema json = .ok record) : record.schema = schema := by
  obtain ⟨_, _, _, _, rfl⟩ := ofJson_eq_ok_iff.mp h
  rfl

theorem wellTyped_of_ofJson {schema : Schema} {json : Json} {record : Record}
    (h : ofJson schema json = .ok record) : record.WellTyped := by
  obtain ⟨members, values, -, hvalues, rfl⟩ := ofJson_eq_ok_iff.mp h
  exact (Sequence.mapM_eq_ok_iff.mp hvalues).imp fun _ _ => hasType_of_readField

end Record

end Reshape
