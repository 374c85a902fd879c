import Reshape.Proofs.Record.Visibility

/-!
# Records read field by field

Each field of a schema takes its value from the object alone: the value that is held under
its key, or its zero value if it is hidden or the key is missing.  This is so for every
schema, also where fields share a name or a key.  The first field whose value does not fit
stops the reading and is named in the error.
-/

namespace Reshape

/-! ## Fields -/

namespace Field

variable {field : Field} {members : List (String × Json)} {held : Json}

/-- What an object holds for a field: nothing if the field is hidden or its key missing. -/
def held? (field : Field) (members : List (String × Json)) : Option Json :=
  if field.isHidden then none else members.lookup field.jsonKey

/-- What an object holds for a field, if anything, is read as the type of the field. -/
def Fits (members : List (String × Json)) (field : Field) : Prop :=
  ∀ held, field.held? members = some held → ∃ value, Value.ofJson field.type held = .ok value

/-- What an object holds for a field is not read as the type of the field. -/
def Misfits (members : List (String × Json)) (field : Field) (cause : ValueError) : Prop :=
  ∃ held, field.held? members = some held ∧ Value.ofJson field.type held = .error cause

/-- The value that a field takes from an object. -/
inductive Takes (members : List (String × Json)) (field : Field) : Value → Prop where
  | zero : field.held? members = none → Takes members field (Value.zero field.type)
  | read {held : Json} {value : Value} :
      field.held? members = some held → Value.ofJson field.type held = .ok value →
      Takes members field value

theorem held?_eq_some_iff :
    field.held? members = some held ↔
      field.isHidden = false ∧ members.lookup field.jsonKey = some held := by
  unfold held?
  cases field.isHidden <;> simp

end Field

namespace Record

variable {schema : Schema} {field : Field} {members : List (String × Json)}

theorem readField_of_held {held : Json} (h : field.held? members = some held) :
    readField members field =
      (Value.ofJson field.type held).mapError (.value field.name) := by
  obtain ⟨hvisible, hlookup⟩ := Field.held?_eq_some_iff.mp h
  simp only [readField, hvisible, hlookup, Bool.false_eq_true, if_false]
  cases Value.ofJson field.type held <;> rfl

theorem readField_of_not_held (h : field.held? members = none) :
    readField members field = .ok (Value.zero field.type) := by
  unfold Field.held? at h
  unfold readField
  split at h
  · simp [*]
  · simp [*]

private theorem readField_eq_ok_iff_takes {value : Value} :
    readField members field = .ok value ↔ field.Takes members value := by
  cases hheld : field.held? members with
  | none =>
      rw [readField_of_not_held hheld]
      constructor
      · rintro ⟨⟩
        exact .zero hheld
      · rintro (_ | ⟨hsome, -⟩)
        · rfl
        · simp [hheld] at hsome
  | some held =>
      rw [readField_of_held hheld, Sequence.mapError_eq_ok_iff]
      constructor
      · exact .read hheld
      · rintro (hnone | ⟨hsome, hread⟩)
        · simp [hheld] at hnone
        · rw [hheld, Option.some.injEq] at hsome
          exact hsome ▸ hread

private theorem readField_eq_error_iff_misfits {error : TransformError} :
    readField members field = .error error ↔
      ∃ cause, field.Misfits members cause ∧ error = .value field.name cause := by
  cases hheld : field.held? members with
  | none =>
      rw [readField_of_not_held hheld]
      simp [Field.Misfits, hheld]
  | some held =>
      rw [readField_of_held hheld, Sequence.mapError_eq_error_iff]
      simp [Field.Misfits, hheld, eq_comm]

theorem exists_readField_iff_fits :
    (∃ value, readField members field = .ok value) ↔ field.Fits members := by
  cases hheld : field.held? members with
  | none =>
      rw [readField_of_not_held hheld]
      simp [Field.Fits, hheld]
  | some held =>
      rw [readField_of_held hheld]
      simp [Field.Fits, hheld, Sequence.mapError_eq_ok_iff]

/-! ## Records -/

theorem ofJson_of_not_object {json : Json} (h : ∀ members, json ≠ .object members) :
    ofJson schema json = .error (.notAnObject schema.name json.kind) := by
  cases json with
  | object members => exact absurd rfl (h members)
  | null | bool _ | number _ | string _ | array _ => rfl

theorem ofJson_object (schema : Schema) (members : List (String × Json)) :
    ofJson schema (.object members) =
      (schema.fields.mapM (readField members)).map fun values => ⟨schema, values⟩ := rfl

theorem exists_ofJson_object_iff :
    (∃ record, ofJson schema (.object members) = .ok record) ↔
      ∀ field ∈ schema.fields, field.Fits members := by
  rw [ofJson_object, Sequence.exists_map_eq_ok_iff, Sequence.exists_mapM_eq_ok_iff]
  simp only [exists_readField_iff_fits]

theorem ofJson_object_eq_ok_iff {record : Record} :
    ofJson schema (.object members) = .ok record ↔
      record.schema = schema ∧
        List.Forall₂ (fun field value => field.Takes members value) schema.fields
          record.values := by
  rw [ofJson_object, Sequence.map_eq_ok_iff]
  simp only [Sequence.mapM_eq_ok_iff, readField_eq_ok_iff_takes]
  constructor
  · rintro ⟨values, hvalues, rfl⟩
    exact ⟨rfl, hvalues⟩
  · rintro ⟨rfl, hvalues⟩
    exact ⟨record.values, hvalues, rfl⟩

theorem ofJson_object_eq_error_iff {error : TransformError} :
    ofJson schema (.object members) = .error error ↔
      ∃ before field after cause, schema.fields = before ++ field :: after ∧
        (∀ earlier ∈ before, earlier.Fits members) ∧ field.Misfits members cause ∧
        error = .value field.name cause := by
  rw [ofJson_object, Sequence.map_eq_error_iff, Sequence.mapM_eq_error_iff]
  simp only [exists_readField_iff_fits, readField_eq_error_iff_misfits]
  constructor
  · rintro ⟨before, field, after, hfields, hbefore, cause, hcause, rfl⟩
    exact ⟨before, field, after, cause, hfields, hbefore, hcause, rfl⟩
  · rintro ⟨before, field, after, cause, hfields, hbefore, hcause, rfl⟩
    exact ⟨before, field, after, hfields, hbefore, cause, hcause, rfl⟩

/-- What is read from an object is told by its fields, each taken on its own. -/
structure ReadsPointwise (schema : Schema) (read : Json → Except TransformError Record) :
    Prop where
  rejects : ∀ json, (∀ members, json ≠ .object members) →
    read json = .error (.notAnObject schema.name json.kind)
  succeeds : ∀ members, (∃ record, read (.object members) = .ok record) ↔
    ∀ field ∈ schema.fields, field.Fits members
  ok_iff : ∀ members record, read (.object members) = .ok record ↔
    record.schema = schema ∧
      List.Forall₂ (fun field value => field.Takes members value) schema.fields record.values
  error_iff : ∀ members error, read (.object members) = .error error ↔
    ∃ before field after cause, schema.fields = before ++ field :: after ∧
      (∀ earlier ∈ before, earlier.Fits members) ∧ field.Misfits members cause ∧
      error = .value field.name cause
  congr : ∀ left right,
    (∀ field ∈ schema.visible, left.lookup field.jsonKey = right.lookup field.jsonKey) →
    read (.object left) = read (.object right)

theorem ofJson_readsPointwise (schema : Schema) : ReadsPointwise schema (ofJson schema) where
  rejects _ := ofJson_of_not_object
  succeeds _ := exists_ofJson_object_iff
  ok_iff _ _ := ofJson_object_eq_ok_iff
  error_iff _ _ := ofJson_object_eq_error_iff
  congr _ _ h := ofJson_congr (.objects h)

/-- Two fields of one name and one key, of which the second does not fit, beside a hidden one. -/
theorem ofJson_readsPointwise_shared :
    let hidden : Field := ⟨"n", .bool, [("json", " - ")]⟩
    let first : Field := ⟨"a", .int .u8, [("json", "n")]⟩
    let second : Field := ⟨"a", .string, [("json", "n,omitempty")]⟩
    let schema : Schema := ⟨"Row", [hidden, first, second]⟩
    let seven : Json := .number (.integer 7 (by decide))
    ofJson schema (.object [("n", seven)]) =
        .error (.value "a" (.typeMismatch .string "number")) ∧
      ofJson schema (.object [("a", seven)]) = .ok (zeroed schema) := by
  intro hidden first second schema seven
  obtain ⟨-, -, hok, herror, -⟩ := ofJson_readsPointwise schema
  constructor
  · have hhidden : hidden.held? [("n", seven)] = none := by with_unfolding_all rfl
    have hfirst : first.held? [("n", seven)] = some seven := by with_unfolding_all rfl
    have hsecond : second.held? [("n", seven)] = some seven := by with_unfolding_all rfl
    refine (herror _ _).mpr ⟨[hidden, first], second, [], _, rfl, ?_,
      ⟨seven, hsecond, rfl⟩, rfl⟩
    rw [List.forall_mem_cons, List.forall_mem_singleton]
    constructor
    · simp [Field.Fits, hhidden]
    · intro held hheld
      obtain rfl : seven = held := by simpa [hfirst] using hheld
      exact ⟨_, rfl⟩
  · have hnone : ∀ field ∈ schema.fields, field.held? [("a", seven)] = none := by
      rw [List.forall_mem_cons, List.forall_mem_cons, List.forall_mem_singleton]
      with_unfolding_all exact ⟨rfl, rfl, rfl⟩
    refine (hok _ _).mpr ⟨rfl, ?_⟩
    rw [zeroed, List.forall₂_map_right_iff, List.forall₂_same]
    exact fun field hfield => .zero (hnone field hfield)

end Record

end Reshape
