import Std.Data.ExtHashMap.Lemmas
import Std.Data.ExtTreeMap.Lemmas
import Mathlib.Data.List.Nodup
import Reshape.MappingTable

/-!
# Maps made of lists

A map that is made of a list of entries with distinct keys finds each of them under its
key, and nothing else.
-/

namespace Reshape

private theorem lookup_iff_mem {κ α : Type} {entries : List (κ × α)}
    (lookup : κ → Option α)
    (hfound : ∀ key value, (key, value) ∈ entries → lookup key = some value)
    (hkey : ∀ key value, lookup key = some value → key ∈ entries.map Prod.fst)
    {key : κ} {value : α} : lookup key = some value ↔ (key, value) ∈ entries := by
  constructor
  · intro h
    obtain ⟨⟨other, held⟩, hmem, heq⟩ := List.mem_map.mp (hkey key value h)
    obtain rfl : other = key := heq
    rw [hfound other held hmem] at h
    cases h
    exact hmem
  · exact hfound key value

private theorem pairwise_compare_of_nodup {α : Type} {entries : List (String × α)}
    (hdistinct : (entries.map Prod.fst).Nodup) :
    entries.Pairwise fun first second => ¬ compare first.1 second.1 = .eq := by
  simpa [List.nodup_iff_pairwise_ne, List.pairwise_map] using hdistinct

private theorem pairwise_beq_of_nodup {α : Type} {entries : List ((String × String) × α)}
    (hdistinct : (entries.map Prod.fst).Nodup) :
    entries.Pairwise fun first second => (first.1 == second.1) = false := by
  simpa [List.nodup_iff_pairwise_ne, List.pairwise_map] using hdistinct

theorem NameMap.getElem?_ofList_iff {α : Type} {entries : List (String × α)}
    (hdistinct : (entries.map Prod.fst).Nodup) {name : String} {value : α} :
    (Std.ExtTreeMap.ofList entries compare : NameMap α)[name]? = some value ↔
      (name, value) ∈ entries := by
  refine lookup_iff_mem
    (fun name => (Std.ExtTreeMap.ofList entries compare : NameMap α)[name]?) ?_ ?_
  · intro key held hmem
    exact Std.ExtTreeMap.getElem?_ofList_of_mem Std.ReflCmp.compare_self
      (pairwise_compare_of_nodup hdistinct) hmem
  · intro key held hkey
    have hmem : key ∈ (Std.ExtTreeMap.ofList entries compare : NameMap α) := by
      rw [Std.ExtTreeMap.mem_iff_isSome_getElem?, hkey]
      rfl
    simpa [Std.ExtTreeMap.mem_ofList] using hmem

theorem NameMap.size_ofList {α : Type} {entries : List (String × α)}
    (hdistinct : (entries.map Prod.fst).Nodup) :
    (Std.ExtTreeMap.ofList entries compare : NameMap α).size = entries.length :=
  Std.ExtTreeMap.size_ofList (pairwise_compare_of_nodup hdistinct)

theorem getElem?_ofList_pairs_iff {α : Type} {entries : List ((String × String) × α)}
    (hdistinct : (entries.map Prod.fst).Nodup) {pair : String × String} {value : α} :
    (Std.ExtHashMap.ofList entries)[pair]? = some value ↔ (pair, value) ∈ entries := by
  refine lookup_iff_mem (fun pair => (Std.ExtHashMap.ofList entries)[pair]?) ?_ ?_
  · intro key held hmem
    exact Std.ExtHashMap.getElem?_ofList_of_mem BEq.rfl (pairwise_beq_of_nodup hdistinct) hmem
  · intro key held hkey
    have hmem : key ∈ Std.ExtHashMap.ofList entries := by
      rw [Std.ExtHashMap.mem_iff_isSome_getElem?, hkey]
      rfl
    simpa [Std.ExtHashMap.mem_ofList] using hmem

theorem size_ofList_pairs {α : Type} {entries : List ((String × String) × α)}
    (hdistinct : (entries.map Prod.fst).Nodup) :
    (Std.ExtHashMap.ofList entries).size = entries.length :=
  Std.ExtHashMap.size_ofList (pairwise_beq_of_nodup hdistinct)

theorem NameMap.nodup_keys {α : Type} (map : NameMap α) : (map.toList.map Prod.fst).Nodup := by
  rw [List.nodup_iff_pairwise_ne, List.pairwise_map]
  exact map.distinct_keys_toList.imp fun hne heq => hne (by simp [heq])

/-- A map is told by its entries, in any order. -/
theorem NameMap.ofList_of_perm {α : Type} {map : NameMap α} {entries : List (String × α)}
    (h : entries.Perm map.toList) : (.ofList entries : NameMap α) = map := by
  have hdistinct := (h.map Prod.fst).nodup_iff.mpr map.nodup_keys
  refine Std.ExtTreeMap.ext_getElem? fun {name} => Option.ext fun value => ?_
  rw [NameMap.getElem?_ofList_iff hdistinct, h.mem_iff,
    Std.ExtTreeMap.mem_toList_iff_getElem?_eq_some]

end Reshape
