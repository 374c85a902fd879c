import Reshape.Proofs.Record.ReadBack
import Reshape.Proofs.Value.RoundTrip

/-!
# Records that reading gives back unchanged

Distinct keys keep the members of a record apart, so that its object has one member
for each visible field.  Reading the object gives the record again if its hidden fields
hold their zero values and its visible ones plain values of unambiguous types.
-/

namespace Reshape.Record

variable {record : Record}

def visibleEntries (record : Record) : List (Field × Value) :=
  record.entries.filter fun entry => !entry.1.isHidden

private theorem members_eq_map (record : Record) :
    record.members =
      record.visibleEntries.map fun entry => (entry.1.jsonKey, entry.2.toJson) := by
  rw [members_eq, visibleEntries]
  induction record.entries with
  | nil => rfl
  | cons entry entries ih =>
      cases hhidden : entry.1.isHidden with
      | true => simpa [member?, hhidden] using ih
      | false => simpa [member?, hhidden] using ih

/-- No member of the object takes the place of another. -/
theorem Complete.toJson_eq_object (h : record.Complete)
    (hkeys : record.schema.DistinctKeys) :
    ∃ members, record.toJson = .object members ∧ (members.map Prod.fst).Nodup ∧
      members.Perm record.members := by
  have hdistinct : (record.members.map Prod.fst).Nodup := by
    rw [h.keys_members]
    exact hkeys
  have hperm : (Json.addMembers [] record.members).Perm record.members :=
    Json.perm_addMembers hdistinct
  exact ⟨_, Json.ofMembers_eq _, (hperm.map Prod.fst).nodup_iff.mpr hdistinct, hperm⟩

private theorem Complete.map_snd_entries (h : record.Complete) :
    record.entries.map Prod.snd = record.values :=
  List.map_snd_zip (Nat.le_of_eq h)

theorem Complete.settled_eq (h : record.Complete)
    (hentries : ∀ entry ∈ record.entries, settledValue entry = entry.2) :
    record.settled = record := by
  rw [settled, List.map_congr_left hentries, h.map_snd_entries]

private theorem mem_values_of_mem_entries {entry : Field × Value} (h : entry ∈ record.entries) :
    entry.2 ∈ record.values :=
  (List.of_mem_zip h).2

private theorem mem_fields_of_mem_entries {entry : Field × Value} (h : entry ∈ record.entries) :
    entry.1 ∈ record.schema.fields :=
  (List.of_mem_zip h).1

theorem ofJson_toJson_of_plain (hkeys : record.schema.DistinctKeys)
    (htypes : ∀ field ∈ record.schema.fields, field.type.isUnambiguous = true)
    (hrecord : record.WellTyped)
    (hhidden : ∀ entry ∈ record.entries, entry.1.isHidden = true →
      entry.2 = Value.zero entry.1.type)
    (hplain : ∀ value ∈ record.values, value.Plain) :
    ofJson record.schema record.toJson = .ok record ∧
      ∃ members, record.toJson = .object members ∧ (members.map Prod.fst).Nodup ∧
        members.Perm
          (record.visibleEntries.map fun entry => (entry.1.jsonKey, entry.2.toJson)) := by
  constructor
  · refine (ofJson_toJson_eq_ok_iff hkeys hrecord).mpr ⟨?_, ?_⟩
    · intro entry hentry _
      exact (hplain _ (mem_values_of_mem_entries hentry)).legible
        (hrecord.hasType_of_mem_entries hentry)
    · refine (hrecord.complete.settled_eq fun entry hentry => ?_).symm
      unfold settledValue
      split
      · rename_i hhide
        exact (hhidden entry hentry hhide).symm
      · exact (hplain _ (mem_values_of_mem_entries hentry)).settled_eq
          (hrecord.hasType_of_mem_entries hentry)
          (htypes _ (mem_fields_of_mem_entries hentry))
  · rw [← members_eq_map]
    exact hrecord.complete.toJson_eq_object hkeys

/-- A hidden field, a key that is not the name, a leap second and an absent item. -/
theorem ofJson_toJson_of_plain_tagged :
    let schema : Schema := ⟨"Row", [
      ⟨"ids", .option (.list (.option (.int .i64))), [("json", " IDs ,omitempty")]⟩,
      ⟨"IDs", .timestamp, [("json", " - ")]⟩,
      ⟨"at", .timestamp, [("json", "-,")]⟩]⟩
    let leap : Timestamp := ⟨1483228799, 1500000000, by decide, by decide⟩
    let record : Record := ⟨schema, [.list [.null, .int .i64 ⟨-2 ^ 63, by decide⟩],
      .timestamp Timestamp.epoch, .timestamp leap]⟩
    schema.DistinctKeys ∧ record.WellTyped ∧
      (∀ value ∈ record.values, value.Plain) ∧
      ofJson schema record.toJson = .ok record ∧
      ∃ members, record.toJson = .object members ∧
        (members.map Prod.fst).Perm ["IDs", "at"] := by
  intro schema leap record
  have hkeys : schema.DistinctKeys := by
    unfold Schema.DistinctKeys
    decide +kernel
  have hrecord : record.WellTyped := by
    refine .cons (.present (.list ?_)) (.cons (.timestamp _) (.cons (.timestamp _) .nil))
    rw [List.forall_mem_cons, List.forall_mem_singleton]
    exact ⟨.absent _, .present (.int .i64 _)⟩
  have hplain : ∀ value ∈ record.values, value.Plain := by
    have hyears : (0 ≤ Timestamp.epoch.year ∧ Timestamp.epoch.year ≤ 9999) ∧
        0 ≤ leap.year ∧ leap.year ≤ 9999 := by
      decide +kernel
    simpa [record, Value.Plain, Value.PlainItems] using hyears
  have hhidden : ∀ entry ∈ record.entries, entry.1.isHidden = true →
      entry.2 = Value.zero entry.1.type := by
    have hvisible : Field.isHidden ⟨"ids", .option (.list (.option (.int .i64))),
        [("json", " IDs ,omitempty")]⟩ = false ∧
        Field.isHidden ⟨"at", .timestamp, [("json", "-,")]⟩ = false := by
      decide +kernel
    simp [record, schema, entries, hvisible, Value.zero]
  obtain ⟨hback, members, hobject, -, hperm⟩ :=
    ofJson_toJson_of_plain hkeys (by decide) hrecord hhidden hplain
  refine ⟨hkeys, hrecord, hplain, hback, members, hobject, ?_⟩
  have hnames : record.visibleEntries.map (·.1.jsonKey) = ["IDs", "at"] := by
    decide +kernel
  rw [← hnames]
  simpa [Function.comp_def] using hperm.map Prod.fst

end Reshape.Record
