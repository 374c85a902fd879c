import Std.Data.ExtTreeMap.Lemmas
import Std.Data.ExtTreeSet.Lemmas
import Reshape.MappingTable

/-!
# Edits of a mapping table

An edit concerns one destination name.  It changes neither the policy nor what the table
says of any other name.
-/

namespace Reshape.MappingTable

variable {table edited : MappingTable} {destination source name : String}

theorem sourceName_of_override (h : table.overrides[name]? = some source) :
    table.sourceName name = source := by
  rw [sourceName, h, Option.getD_some]

/-! ## Single steps -/

private theorem sourceName_map :
    (table.map destination source).sourceName name =
      if destination = name then source else table.sourceName name := by
  simp only [sourceName, map, Std.ExtTreeMap.getElem?_insert, Std.LawfulEqCmp.compare_eq_iff_eq]
  split
  · rfl
  · rfl

theorem isSkipped_skip :
    (table.skip destination).isSkipped name =
      (decide (destination = name) || table.isSkipped name) := by
  rw [isSkipped, skip, Std.ExtTreeSet.contains_insert, isSkipped]
  congr 1
  rw [Bool.eq_iff_iff, beq_iff_eq, Std.LawfulEqCmp.compare_eq_iff_eq, decide_eq_true_iff]

/-! ## Edits -/

/-- The table with the override or the skip of one destination added, changed or removed. -/
inductive EditedAt (destination : String) (table : MappingTable) : MappingTable → Prop where
  | map (source : String) : EditedAt destination table (table.map destination source)
  | unmap :
      EditedAt destination table
        { table with overrides := table.overrides.erase destination }
  | skip : EditedAt destination table (table.skip destination)
  | unskip :
      EditedAt destination table { table with skipped := table.skipped.erase destination }

theorem EditedAt.policy_eq (h : table.EditedAt destination edited) :
    edited.policy = table.policy := by
  cases h <;> rfl

theorem EditedAt.sourceName_eq (h : table.EditedAt destination edited)
    (hname : name ≠ destination) : edited.sourceName name = table.sourceName name := by
  cases h with
  | map source => rw [sourceName_map, if_neg hname.symm]
  | unmap =>
      simp only [sourceName, Std.ExtTreeMap.getElem?_erase,
        Std.LawfulEqCmp.compare_eq_iff_eq, if_neg hname.symm]
  | skip | unskip => rfl

theorem EditedAt.isSkipped_eq (h : table.EditedAt destination edited)
    (hname : name ≠ destination) : edited.isSkipped name = table.isSkipped name := by
  cases h with
  | map | unmap => rfl
  | skip => rw [isSkipped_skip, decide_eq_false hname.symm, Bool.false_or]
  | unskip => simp [isSkipped, hname.symm]

end Reshape.MappingTable
