import Reshape.Proofs.Json.Members
import Reshape.Proofs.Schema.Lookup
import Reshape.Proofs.Value.ReadBack

/-!
# Records read back from JSON

Under distinct keys the object of a record holds the JSON of each visible field, so
that the record is read back if these fields are.  What is read has its zero value in
each hidden field and is rendered to the same object.
-/

namespace Reshape.Record

variable {record : Record} {field : Field} {value : Value}

def entries (record : Record) : List (Field × Value) :=
  record.schema.fields.zip record.values

/-- Each value that is rendered is read back as the type of its field. -/
def Legible (record : Record) : Prop :=
  ∀ entry ∈ record.entries, entry.1.isHidden = false → entry.2.Legible entry.1.type

def settledValue (entry : Field × Value) : Value :=
  if entry.1.isHidden then Value.zero entry.1.type else entry.2.settled entry.1.type

/-- What the record is read back as. -/
def settled (record : Record) : Record :=
  ⟨record.schema, record.entries.map settledValue⟩

/-! ## Entries -/

theorem Complete.map_fst_entries (h : record.Complete) :
    record.entries.map Prod.fst = record.schema.fields :=
  List.map_fst_zip (Nat.le_of_eq h.symm)

theorem WellTyped.hasType_of_mem_entries (h : record.WellTyped) {entry : Field × Value}
    (hentry : entry ∈ record.entries) : entry.2.HasType entry.1.type :=
  (List.forall₂_iff_zip.mp h).2 hentry

private theorem Complete.entries_settled (h : record.Complete) :
    record.settled.entries = record.entries.map fun entry => (entry.1, settledValue entry) := by
  rw [entries, settled, ← h.map_fst_entries, List.zip_map']

/-! ## Members -/

def member? (entry : Field × Value) : Option (String × Json) :=
  if entry.1.isHidden then none else some (entry.1.jsonKey, entry.2.toJson)

theorem members_eq (record : Record) : record.members = record.entries.filterMap member? :=
  rfl

private theorem mem_members {entry : Field × Value} (hentry : entry ∈ record.entries)
    (hvisible : entry.1.isHidden = false) :
    (entry.1.jsonKey, entry.2.toJson) ∈ record.members := by
  rw [members_eq, List.mem_filterMap]
  exact ⟨entry, hentry, by simp [member?, hvisible]⟩

theorem Complete.keys_members (h : record.Complete) :
    record.members.map Prod.fst = record.schema.visible.map (·.jsonKey) := by
  rw [members_eq, Schema.visible, ← h.map_fst_entries, List.filter_map, List.map_map]
  induction record.entries with
  | nil => rfl
  | cons entry entries ih =>
      cases hhidden : entry.1.isHidden with
      | true => simpa [member?, hhidden] using ih
      | false => simpa [member?, hhidden] using ih

private theorem Complete.members_settled (h : record.Complete) :
    record.settled.members = record.members := by
  rw [members_eq, h.entries_settled, members_eq, List.filterMap_map]
  refine List.filterMap_congr fun entry _ => ?_
  cases hhidden : entry.1.isHidden with
  | true => simp [member?, hhidden]
  | false => simp [member?, hhidden, settledValue, Value.toJson_settled]

theorem Complete.toJson_settled (h : record.Complete) :
    record.settled.toJson = record.toJson := by
  rw [toJson, h.members_settled, toJson]

/-! ## Reading back -/

theorem readField_eq_ok_iff {members : List (String × Json)} {json : Json}
    (hvisible : field.isHidden = false) (hlookup : members.lookup field.jsonKey = some json) :
    readField members field = .ok value ↔ Value.ofJson field.type json = .ok value := by
  simp only [readField, hvisible, hlookup, Bool.false_eq_true, if_false]
  cases Value.ofJson field.type json with
  | error cause => simp
  | ok read => simp

private theorem readField_toJson_eq_ok_iff (hkeys : record.schema.DistinctKeys)
    (hrecord : record.WellTyped) {entry : Field × Value} (hentry : entry ∈ record.entries) :
    readField (Json.addMembers [] record.members) entry.1 = .ok value ↔
      (entry.1.isHidden = false → entry.2.Legible entry.1.type) ∧
        value = settledValue entry := by
  cases hhidden : entry.1.isHidden with
  | true => simp [readField, settledValue, hhidden, eq_comm]
  | false =>
      have hdistinct : (record.members.map Prod.fst).Nodup := by
        rw [hrecord.complete.keys_members]
        exact hkeys
      have hlookup := Json.lookup_addMembers_of_mem hdistinct
        (mem_members hentry hhidden) []
      rw [readField_eq_ok_iff hhidden hlookup,
        Value.ofJson_toJson_eq_ok_iff (hrecord.hasType_of_mem_entries hentry)]
      simp [settledValue, hhidden]

theorem ofJson_toJson_eq_ok_iff {back : Record} (hkeys : record.schema.DistinctKeys)
    (hrecord : record.WellTyped) :
    ofJson record.schema record.toJson = .ok back ↔
      record.Legible ∧ back = record.settled := by
  have hfields : record.schema.fields.mapM (readField (Json.addMembers [] record.members)) =
      record.entries.mapM (readField (Json.addMembers [] record.members) ∘ Prod.fst) := by
    rw [← List.mapM_map, hrecord.complete.map_fst_entries]
  simp only [toJson, Json.ofMembers_eq, ofJson, hfields]
  exact Sequence.map_mapM_eq_ok_iff_map fun entry hentry _ =>
    readField_toJson_eq_ok_iff hkeys hrecord hentry

end Reshape.Record
