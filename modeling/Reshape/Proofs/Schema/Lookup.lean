import Mathlib.Data.List.Nodup
import Reshape.Schema.Lookup

/-!
# Where a lookup ends

The place that a lookup returns holds the field that it returns.  Under distinct
names the name of a field refers to that field, whatever aliases the other fields
have, since the exact step comes first.
-/

namespace Reshape

namespace Schema

/-- The fields that are not hidden have pairwise distinct JSON keys. -/
def DistinctKeys (schema : Schema) : Prop := (schema.visible.map (·.jsonKey)).Nodup

theorem getElem?_of_firstAccepted? {kind : MatchKind} {name : String}
    {fields : List Field} {index : Nat} {field : Field}
    (h : firstAccepted? kind name fields = some (index, field)) :
    fields[index]? = some field := by
  induction fields generalizing index with
  | nil => cases h
  | cons head fields ih =>
      simp only [firstAccepted?] at h
      split at h
      · cases h
        rfl
      · obtain ⟨⟨place, found⟩, hfound, heq⟩ := Option.map_eq_some_iff.mp h
        cases heq
        exact ih hfound

theorem getElem?_of_resolve? {schema : Schema} {name : String} {found : FieldMatch}
    (h : schema.resolve? name = some found) :
    schema.fields[found.index]? = some found.field := by
  obtain ⟨kind, -, hkind⟩ := List.exists_of_findSome?_eq_some h
  obtain ⟨⟨index, field⟩, hfirst, rfl⟩ := Option.map_eq_some_iff.mp hkind
  exact getElem?_of_firstAccepted? hfirst

private theorem resolve?_eq_of_exact {schema : Schema} {name : String} {index : Nat}
    {field : Field}
    (h : firstAccepted? .exact name schema.fields = some (index, field)) :
    schema.resolve? name = some ⟨index, field, .exact⟩ := by
  simp [resolve?, MatchKind.inOrder, h]

private theorem firstAccepted?_exact_of_mem {fields : List Field}
    (hnames : (fields.map (·.name)).Nodup) {field : Field} (h : field ∈ fields) :
    ∃ index, firstAccepted? .exact field.name fields = some (index, field) := by
  induction fields with
  | nil => cases h
  | cons head fields ih =>
      rw [List.map_cons, List.nodup_cons] at hnames
      rcases List.mem_cons.mp h with rfl | hmem
      · exact ⟨0, by simp [firstAccepted?, MatchKind.accepts]⟩
      · have hhead : head.name ≠ field.name := by
          intro heq
          exact hnames.1 (heq ▸ List.mem_map_of_mem hmem)
        obtain ⟨index, hindex⟩ := ih hnames.2 hmem
        exact ⟨index + 1, by simp [firstAccepted?, MatchKind.accepts, hhead, hindex]⟩

private theorem resolve?_of_mem {schema : Schema} (hnames : schema.DistinctNames)
    {field : Field} (h : field ∈ schema.fields) :
    ∃ index, schema.resolve? field.name = some ⟨index, field, .exact⟩ ∧
      schema.fields[index]? = some field := by
  obtain ⟨index, hindex⟩ := firstAccepted?_exact_of_mem hnames h
  exact ⟨index, resolve?_eq_of_exact hindex, getElem?_of_firstAccepted? hindex⟩

private theorem DistinctNames.index_unique {schema : Schema} (hnames : schema.DistinctNames)
    {left right : Nat} {field : Field} (hleft : schema.fields[left]? = some field)
    (hright : schema.fields[right]? = some field) : left = right := by
  obtain ⟨hbound, -⟩ := List.getElem?_eq_some_iff.mp hleft
  exact (List.getElem?_inj hbound (List.Nodup.of_map _ hnames)).mp
    (hleft.trans hright.symm)

/-- The name of a field refers to the place of the field. -/
theorem resolve?_of_getElem? {schema : Schema} (hnames : schema.DistinctNames)
    {index : Nat} {field : Field} (h : schema.fields[index]? = some field) :
    schema.resolve? field.name = some ⟨index, field, .exact⟩ := by
  obtain ⟨place, hresolve, hplace⟩ := resolve?_of_mem hnames (List.mem_of_getElem? h)
  rw [hresolve, hnames.index_unique hplace h]

end Schema

end Reshape
