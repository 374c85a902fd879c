import Reshape.Proofs.Floating.Exact
import Reshape.Proofs.Timestamp.Text
import Reshape.Proofs.Typing.Json
import Reshape.Proofs.Uuid

/-!
# Values read back from JSON

JSON has no text for some values of the types `f32`, `f64` and `timestamp`.  All other
values are read back from the JSON that they are rendered to, except that what is
rendered as `null` under an option comes back as absent, which is rendered the same.
-/

namespace Reshape.Value

/-- The JSON of the value is read back as the type. -/
def Legible : FieldType → Value → Prop
  | .f32, .f32 value => ∃ number, value = .finite number
  | .f64, .f64 value => ∃ number, value = .finite number
  | .timestamp, .timestamp value => 0 ≤ value.year ∧ value.year ≤ 9999
  | .list item, .list items => ∀ value ∈ items, Legible item value
  | .option item, value => value.toJson = .null ∨ Legible item value
  | _, _ => True

/-- What the value is read back as. -/
def settled : FieldType → Value → Value
  | .list item, .list items => .list (items.map (settled item))
  | .option item, value =>
      match value.toJson with
      | .null => .null
      | _ => settled item value
  | _, value => value

theorem toJson_list (items : List Value) :
    toJson (.list items) = .array (items.map toJson) := by
  rw [toJson, toJsonItems_eq_map]

theorem toJson_settled (type : FieldType) (value : Value) :
    (settled type value).toJson = value.toJson := by
  induction type generalizing value with
  | list item ih =>
      cases value with
      | list items =>
          simp only [settled, toJson_list, List.map_map]
          congr 1
          exact List.map_congr_left fun value _ => ih value
      | null | bool _ | int _ _ | f32 _ | f64 _ | string _ | uuid _ | timestamp _
      | json _ => rfl
  | option item ih =>
      simp only [settled]
      split
      · rename_i hnull
        rw [hnull]
        rfl
      · exact ih value
  | bool | int _ | f32 | f64 | string | uuid | timestamp | json => rfl

/-! ## Options -/

theorem settled_option_of_null {item : FieldType} {value : Value}
    (h : value.toJson = .null) : settled (.option item) value = .null := by
  simp [settled, h]

theorem settled_option_of_ne_null {item : FieldType} {value : Value}
    (h : value.toJson ≠ .null) : settled (.option item) value = settled item value := by
  simp [settled]

/-! ## Floating-point numbers -/

theorem toJson_f32_finite (number : Floating.Finite .single) :
    ∃ wide, toJson (.f32 (.finite number)) = .number (.float wide) ∧
      (Floating.finite wide).convert .single = .finite number := by
  obtain ⟨wide, hwide, hback⟩ := Floating.convert_convert_single number
  refine ⟨wide, ?_, hback⟩
  rw [toJson, hwide]
  rfl

private theorem ofJson_f32_eq_ok_iff {value : Single} {back : Value} :
    ofJson .f32 (toJson (.f32 value)) = .ok back ↔
      (∃ number, value = .finite number) ∧ back = .f32 value := by
  cases value with
  | finite number =>
      obtain ⟨wide, hwide, hback⟩ := toJson_f32_finite number
      simp [hwide, ofJson, Json.Number.toDouble, hback, eq_comm]
  | nan | infinite _ => simp [toJson, Floating.convert, Json.ofDouble, ofJson]

private theorem ofJson_f64_eq_ok_iff {value : Double} {back : Value} :
    ofJson .f64 (toJson (.f64 value)) = .ok back ↔
      (∃ number, value = .finite number) ∧ back = .f64 value := by
  cases value with
  | finite number => simp [toJson, Json.ofDouble, ofJson, Json.Number.toDouble, eq_comm]
  | nan | infinite _ => simp [toJson, Json.ofDouble, ofJson]

/-! ## Strings -/

private theorem ofJson_uuid (value : Uuid) :
    ofJson .uuid (toJson (.uuid value)) = .ok (.uuid value) := by
  simp [toJson, ofJson, Uuid.parse_text]

private theorem ofJson_timestamp_eq_ok_iff {value : Timestamp} {back : Value} :
    ofJson .timestamp (toJson (.timestamp value)) = .ok back ↔
      (0 ≤ value.year ∧ value.year ≤ 9999) ∧ back = .timestamp value := by
  simp only [toJson, ofJson]
  by_cases hyear : 0 ≤ value.year ∧ value.year ≤ 9999
  · rw [Timestamp.parse_text hyear.1 hyear.2]
    simp [hyear, eq_comm]
  · obtain ⟨error, herror⟩ := Timestamp.parse_text_of_signed hyear
    simp [herror, hyear]

/-! ## All types -/

private theorem ofJson_int {type : IntType} (value : type.Carrier) :
    ofJson (.int type) (toJson (.int type value)) = .ok (.int type value) :=
  ofInt_eq_ok_iff.mpr ⟨value.property, rfl⟩

theorem ofJson_toJson_eq_ok_iff {type : FieldType} {value back : Value}
    (h : value.HasType type) :
    ofJson type value.toJson = .ok back ↔
      Legible type value ∧ back = settled type value := by
  -- The reader, legibility and the settled value all recurse along the type.
  induction type generalizing value back with
  | option item ih =>
      by_cases hnull : value.toJson = .null
      · rw [settled_option_of_null hnull]
        simp [Legible, hnull, ofJson, eq_comm]
      · have hvalue : value.HasType item := by
          rcases HasType.option_iff.mp h with rfl | hvalue
          · exact absurd rfl hnull
          · exact hvalue
        rw [settled_option_of_ne_null hnull, ofJson_option_of_ne_null hnull, ih hvalue]
        simp [Legible, hnull]
  | list item ih =>
      obtain ⟨items, rfl, hitems⟩ := HasType.list_iff.mp h
      simp only [toJson_list, ofJson, List.mapM_map]
      exact Sequence.map_mapM_eq_ok_iff_map fun value hvalue _ => ih (hitems value hvalue)
  | int type =>
      cases h with
      | int _ value => simp [ofJson_int, Legible, settled, eq_comm]
  | f32 =>
      cases h with
      | f32 value => exact ofJson_f32_eq_ok_iff
  | f64 =>
      cases h with
      | f64 value => exact ofJson_f64_eq_ok_iff
  | uuid =>
      cases h with
      | uuid value => simp [ofJson_uuid, Legible, settled, eq_comm]
  | timestamp =>
      cases h with
      | timestamp value => exact ofJson_timestamp_eq_ok_iff
  | bool | string | json =>
      cases h
      simp [toJson, ofJson, Legible, settled, eq_comm]

end Reshape.Value
