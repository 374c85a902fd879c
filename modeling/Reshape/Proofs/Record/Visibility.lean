import Reshape.Proofs.Record.RoundTrip

/-!
# What of an object and of a record counts

Reading an object under a schema looks at the keys of the visible fields only, and
leaves each hidden field at its zero value.  Rendering a record shows the values of the
visible fields only, each under its key.
-/

namespace Reshape

/-- Reading under the schema cannot tell the two apart. -/
inductive Schema.Indistinguishable (schema : Schema) : Json → Json → Prop where
  | same (json : Json) : Indistinguishable schema json json
  | objects {left right : List (String × Json)} :
      (∀ field ∈ schema.visible,
        left.lookup field.jsonKey = right.lookup field.jsonKey) →
      Indistinguishable schema (.object left) (.object right)

/-- An object with the keys of the visible fields and no others. -/
def Schema.Exposes (schema : Schema) (json : Json) : Prop :=
  ∃ members, json = .object members ∧
    (members.map Prod.fst).Perm (schema.visible.map (·.jsonKey))

namespace Record

/-- The two records differ in hidden fields only. -/
structure VisiblyEqual (left right : Record) : Prop where
  schema : left.schema = right.schema
  values : ∀ (index : Nat) (field : Field), left.schema.fields[index]? = some field →
    field.isHidden = false → left.values[index]? = right.values[index]?

variable {schema : Schema} {left right record : Record} {json first second : Json}

/-! ## Reading -/

theorem readField_of_hidden {field : Field} (h : field.isHidden = true)
    (members : List (String × Json)) :
    readField members field = .ok (Value.zero field.type) := by
  simp [readField, h]

private theorem readField_congr {field : Field} {left right : List (String × Json)}
    (h : field.isHidden = false →
      left.lookup field.jsonKey = right.lookup field.jsonKey) :
    readField left field = readField right field := by
  cases hhidden : field.isHidden with
  | true => rw [readField_of_hidden hhidden, readField_of_hidden hhidden]
  | false => rw [readField, readField, h hhidden]

theorem ofJson_congr (h : schema.Indistinguishable first second) :
    ofJson schema first = ofJson schema second := by
  cases h with
  | same => rfl
  | @objects left right hagree =>
      have hfields : schema.fields.mapM (readField left) =
          schema.fields.mapM (readField right) :=
        Sequence.mapM_congr fun field hfield => readField_congr fun hkept =>
          hagree field (by simp [Schema.visible, hfield, hkept])
      rw [ofJson, ofJson, hfields]

theorem hidden_of_ofJson (h : ofJson schema json = .ok record) {entry : Field × Value}
    (hentry : entry ∈ record.entries) (hhidden : entry.1.isHidden = true) :
    entry.2 = Value.zero entry.1.type := by
  obtain ⟨members, values, -, hvalues, rfl⟩ := ofJson_eq_ok_iff.mp h
  have hread := (List.forall₂_iff_zip.mp (Sequence.mapM_eq_ok_iff.mp hvalues)).2 hentry
  rw [readField_of_hidden hhidden] at hread
  exact (Except.ok.inj hread).symm

/-! ## Rendering -/

private theorem filterMap_member_cons (field : Field) (fields : List Field) (values : List Value) :
    ((field :: fields).zip values).filterMap member? =
      (if field.isHidden then []
        else (values.head?.map fun value => (field.jsonKey, value.toJson)).toList) ++
          (fields.zip values.tail).filterMap member? := by
  cases values with
  | nil => cases field.isHidden <;> simp
  | cons value values => cases hhidden : field.isHidden <;> simp [member?, hhidden]

private theorem filterMap_member_congr {fields : List Field} {left right : List Value}
    (h : ∀ (index : Nat) (field : Field), fields[index]? = some field →
      field.isHidden = false → left[index]? = right[index]?) :
    (fields.zip left).filterMap member? = (fields.zip right).filterMap member? := by
  induction fields generalizing left right with
  | nil => rfl
  | cons field fields ih =>
      have htail : (fields.zip left.tail).filterMap member? =
          (fields.zip right.tail).filterMap member? :=
        ih fun index other hother hkept => by simpa using h (index + 1) other hother hkept
      rw [filterMap_member_cons, filterMap_member_cons, htail]
      cases hhidden : field.isHidden with
      | true => rfl
      | false =>
          have hhead := h 0 field rfl hhidden
          rw [← List.head?_eq_getElem?, ← List.head?_eq_getElem?] at hhead
          rw [hhead]

theorem VisiblyEqual.toJson_eq (h : left.VisiblyEqual right) :
    left.toJson = right.toJson := by
  have hmembers : left.members = right.members := by
    rw [members_eq, members_eq, entries, entries, ← h.schema]
    exact filterMap_member_congr h.values
  rw [toJson, toJson, hmembers]

theorem Complete.exposes_toJson (h : record.Complete)
    (hkeys : record.schema.DistinctKeys) : record.schema.Exposes record.toJson := by
  obtain ⟨members, hobject, -, hperm⟩ := h.toJson_eq_object hkeys
  exact ⟨members, hobject, h.keys_members ▸ hperm.map Prod.fst⟩

end Record

end Reshape
