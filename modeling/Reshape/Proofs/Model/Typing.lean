import Reshape.Model.Basic
import Reshape.Proofs.Sequence
import Reshape.Proofs.Typing.Basic

/-!
# Instances and well-typed records

The members of a field type stand for the values that belong to it, one for each if the
type is declarable.  Likewise the instances of a model stand for the well-typed records
of its schema.
-/

namespace Reshape

/-! ## Members -/

namespace FieldType

variable {type item : FieldType} {value : Value}

theorem toValue_hasType (type : FieldType) (member : type.Member) :
    (type.toValue member).HasType type := by
  induction type with
  | list item ih =>
      refine .list fun value hvalue => ?_
      obtain ⟨held, -, rfl⟩ := List.mem_map.mp hvalue
      exact ih held
  | option item ih =>
      cases member with
      | none => exact .absent item
      | some held => exact .present (ih held)
  | bool | int | f32 | f64 | string | uuid | timestamp | json => constructor

private theorem ofValue_int (expected type : IntType) (member : type.Carrier) :
    ofValue (.int expected) (.int type member) =
      if h : type = expected then .ok (h ▸ member)
      else .error (.typeMismatch (.int expected) type.name) := rfl

theorem ofValue_list_eq_ok_iff {values : List Value} {members : List item.Member} :
    ofValue (.list item) (.list values) = .ok members ↔
      List.Forall₂ (fun value member => item.ofValue value = .ok member) values members :=
  Sequence.mapM_eq_ok_iff

theorem ofValue_option_of_ne_null (h : value ≠ .null) :
    ofValue (.option item) value = (ofValue item value).map some := by
  cases value <;> first | rfl | exact absurd rfl h

theorem toValue_of_ofValue {member : type.Member} (h : type.ofValue value = .ok member) :
    type.toValue member = value := by
  induction type generalizing value with
  | list item ih =>
      cases value with
      | list values =>
          have hmembers :=
            (ofValue_list_eq_ok_iff.mp h).flip.imp fun _ _ => Eq.symm ∘ ih
          exact congrArg Value.list (Sequence.eq_map_of_forall₂ hmembers).symm
      | null | bool _ | int _ _ | f32 _ | f64 _ | string _ | uuid _ | timestamp _
      | json _ => cases h
  | option item ih =>
      by_cases hnull : value = .null
      · subst hnull
        cases h
        rfl
      · have hitem := (ofValue_option_of_ne_null hnull).symm.trans h
        obtain ⟨held, hheld, rfl⟩ := Sequence.map_eq_ok_iff.mp hitem
        exact ih hheld
  | int expected =>
      cases value with
      | int type held =>
          rw [ofValue_int] at h
          split at h
          · rename_i htype
            subst htype
            cases h
            rfl
          · cases h
      | null | bool _ | f32 _ | f64 _ | string _ | uuid _ | timestamp _ | json _
      | list _ => cases h
  | bool | f32 | f64 | string | uuid | timestamp | json =>
      cases value <;> cases h
      rfl

/-- The item of a declarable option is never absent itself. -/
private theorem toValue_ne_null (h : (FieldType.option item).isDeclarable = true)
    (member : item.Member) : item.toValue member ≠ .null := by
  intro hnull
  obtain ⟨nested, rfl⟩ := (hnull ▸ toValue_hasType item member).isOption_of_null
  cases h

theorem ofValue_toValue (h : type.isDeclarable = true) (member : type.Member) :
    type.ofValue (type.toValue member) = .ok member := by
  induction type with
  | list item ih =>
      refine ofValue_list_eq_ok_iff.mpr (List.forall₂_map_left_iff.mpr ?_)
      exact List.forall₂_same.mpr fun held _ => ih h held
  | option item ih =>
      cases member with
      | none => rfl
      | some held =>
          have hne : toValue (.option item) (some held) ≠ .null := toValue_ne_null h held
          rw [ofValue_option_of_ne_null hne]
          rw [isDeclarable, Bool.and_eq_true] at h
          exact Sequence.map_eq_ok_iff.mpr ⟨held, ih h.2 held, rfl⟩
  | int type => exact dif_pos rfl
  | bool | f32 | f64 | string | uuid | timestamp | json => rfl

theorem exists_ofValue_iff :
    (∃ member, type.ofValue value = .ok member) ↔ value.HasType type := by
  constructor
  · rintro ⟨member, h⟩
    exact toValue_of_ofValue h ▸ toValue_hasType type member
  · intro h
    induction h with
    | list hitems ih => exact Sequence.exists_mapM_eq_ok_iff.mpr ih
    | absent item => exact ⟨none, rfl⟩
    | @present item value _ ih =>
        by_cases hnull : value = .null
        · subst hnull
          exact ⟨none, rfl⟩
        · obtain ⟨member, hmember⟩ := ih
          exact ⟨some member, by rw [ofValue_option_of_ne_null hnull, hmember]; rfl⟩
    | int type value => exact ⟨value, dif_pos rfl⟩
    | bool value | f32 value | f64 value | string value | uuid value | timestamp value
    | json value => exact ⟨value, rfl⟩

end FieldType

/-! ## Rows -/

namespace Row

variable {fields : List Field} {values : List Value} {record : String}

theorem toValues_hasType (fields : List Field) (row : Row fields) :
    List.Forall₂ (fun field value => value.HasType field.type) fields
      (toValues fields row) := by
  induction fields with
  | nil => exact .nil
  | cons field fields ih => exact .cons (field.type.toValue_hasType row.1) (ih row.2)

theorem ofValues_cons_of_ok {field : Field} {value : Value} {member : field.type.Member}
    (h : field.type.ofValue value = .ok member) :
    ofValues record (field :: fields) (value :: values) =
      (ofValues record fields values).map fun row => (member, row) := by
  rw [ofValues, h]
  rfl

theorem ofValues_toValues (h : ∀ field ∈ fields, field.type.isDeclarable = true)
    (row : Row fields) : ofValues record fields (toValues fields row) = .ok row := by
  induction fields with
  | nil => rfl
  | cons field fields ih =>
      rw [List.forall_mem_cons] at h
      obtain ⟨member, row⟩ := row
      rw [toValues, ofValues_cons_of_ok (field.type.ofValue_toValue h.1 member), ih h.2]
      rfl

private theorem exists_ofValues
    (h : List.Forall₂ (fun field value => value.HasType field.type) fields values) :
    ∃ row, ofValues record fields values = .ok row ∧ toValues fields row = values := by
  induction h with
  | nil => exact ⟨(), rfl, rfl⟩
  | @cons field value fields values hvalue _ ih =>
      obtain ⟨member, hmember⟩ := FieldType.exists_ofValue_iff.mpr hvalue
      obtain ⟨row, hrow, rfl⟩ := ih
      refine ⟨(member, row), by rw [ofValues_cons_of_ok hmember, hrow]; rfl, ?_⟩
      rw [toValues, FieldType.toValue_of_ofValue hmember]

end Row

/-! ## Instances -/

namespace Model.Instance

variable {model : Model} {record : Record}

theorem schema_toRecord (row : model.Instance) : row.toRecord.schema = model.schema := rfl

theorem wellTyped_toRecord (row : model.Instance) : row.toRecord.WellTyped :=
  Row.toValues_hasType model.schema.fields row

theorem ofRecord_of_schema (h : record.schema = model.schema) :
    ofRecord model record =
      Row.ofValues model.schema.name model.schema.fields record.values :=
  if_pos (Record.hasSchema_iff.mpr h)

theorem ofRecord_toRecord (row : model.Instance) :
    ofRecord model row.toRecord = .ok row := by
  rw [ofRecord_of_schema row.schema_toRecord]
  exact Row.ofValues_toValues model.declarable row

/-- Every well-typed record of the schema is the record of an instance. -/
theorem exists_ofRecord (hschema : record.schema = model.schema)
    (hrecord : record.WellTyped) :
    ∃ row, ofRecord model record = .ok row ∧ row.toRecord = record := by
  obtain ⟨schema, values⟩ := record
  obtain rfl : schema = model.schema := hschema
  obtain ⟨row, hrow, hvalues⟩ := Row.exists_ofValues hrecord
  exact ⟨row, (ofRecord_of_schema rfl).trans hrow,
    congrArg (Record.mk model.schema) hvalues⟩

end Model.Instance

end Reshape
