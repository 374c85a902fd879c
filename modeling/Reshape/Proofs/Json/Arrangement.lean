import Mathlib.Data.List.Forall2
import Reshape.Proofs.Json.Members
import Reshape.Proofs.Json.Scan

/-!
# Values with their members in any order

One and the same value is written with the members of its objects in whatever order they
are visited.  What is read of a text of a value is an arrangement of the value.
-/

namespace Reshape.Json

/-! ## Arrangements -/

/-- The same value, with the members of its objects in any order. -/
inductive Reorders : Json → Json → Prop where
  | same (json : Json) : Reorders json json
  | array {items others : List Json} :
      List.Forall₂ Reorders items others → Reorders (.array items) (.array others)
  | object {members arranged others : List (String × Json)} :
      members.map Prod.fst = arranged.map Prod.fst →
      List.Forall₂ Reorders (members.map Prod.snd) (arranged.map Prod.snd) →
      arranged.Perm others → Reorders (.object members) (.object others)

variable {written : Json}

theorem Reorders.eq_null (h : written.Reorders .null) : written = .null := by
  cases h with
  | same => rfl

theorem Reorders.eq_string {value : String} (h : written.Reorders (.string value)) :
    written = .string value := by
  cases h with
  | same => rfl

theorem Reorders.of_array {others : List Json} (h : written.Reorders (.array others)) :
    ∃ items, written = .array items ∧ List.Forall₂ Reorders items others := by
  cases h with
  | same => exact ⟨others, rfl, List.forall₂_same.mpr fun item _ => .same item⟩
  | array hitems => exact ⟨_, rfl, hitems⟩

/-- Each member is one of the others, with its value arranged anew. -/
private theorem exists_member {members arranged : List (String × Json)}
    (hkeys : members.map Prod.fst = arranged.map Prod.fst)
    (hvalues : List.Forall₂ Reorders (members.map Prod.snd) (arranged.map Prod.snd)) :
    ∀ member ∈ members, ∃ json, (member.1, json) ∈ arranged ∧ member.2.Reorders json := by
  induction members generalizing arranged with
  | nil => simp
  | cons member members ih =>
      cases arranged with
      | nil => simp at hkeys
      | cons other arranged =>
          obtain ⟨hkey, hkeys⟩ := List.cons_eq_cons.mp hkeys
          obtain ⟨hvalue, hvalues⟩ := List.forall₂_cons.mp hvalues
          rw [List.forall_mem_cons]
          refine ⟨⟨other.2, by simp [hkey], hvalue⟩, fun held hheld => ?_⟩
          obtain ⟨json, hmem, hjson⟩ := ih hkeys hvalues held hheld
          exact ⟨json, List.mem_cons_of_mem other hmem, hjson⟩

private theorem Reorders.of_object {others : List (String × Json)}
    (h : written.Reorders (.object others)) :
    ∃ members, written = .object members ∧
      (members.map Prod.fst).Perm (others.map Prod.fst) ∧
      ∀ member ∈ members, ∃ json, (member.1, json) ∈ others ∧ member.2.Reorders json := by
  cases h with
  | same => exact ⟨others, rfl, .refl _, fun member hmember => ⟨_, hmember, .same _⟩⟩
  | @object members arranged _ hkeys hvalues hperm =>
      refine ⟨members, rfl, hkeys ▸ hperm.map Prod.fst, fun member hmember => ?_⟩
      obtain ⟨json, hmem, hjson⟩ := exists_member hkeys hvalues member hmember
      exact ⟨json, hperm.mem_iff.mp hmem, hjson⟩

theorem perm_of_ofMembers {members : List (String × Json)}
    (hkeys : (members.map Prod.fst).Nodup) : (addMembers [] members).Perm members :=
  perm_addMembers (by simpa using hkeys)

/-- As `of_object`, for an object that is made of members with distinct keys. -/
theorem Reorders.of_ofMembers {expected : List (String × Json)}
    (hkeys : (expected.map Prod.fst).Nodup) (h : written.Reorders (ofMembers expected)) :
    ∃ members, written = .object members ∧
      (members.map Prod.fst).Perm (expected.map Prod.fst) ∧
      ∀ member ∈ members, ∃ json, (member.1, json) ∈ expected ∧ member.2.Reorders json := by
  have hperm := perm_of_ofMembers hkeys
  rw [ofMembers_eq] at h
  obtain ⟨members, rfl, hnames, hmembers⟩ := h.of_object
  refine ⟨members, rfl, hnames.trans (hperm.map Prod.fst), fun member hmember => ?_⟩
  obtain ⟨json, hmem, hjson⟩ := hmembers member hmember
  exact ⟨json, hperm.mem_iff.mp hmem, hjson⟩

/-- The members can be written in the order in which they are listed. -/
theorem reorders_ofMembers {members expected : List (String × Json)}
    (hkeys : (expected.map Prod.fst).Nodup)
    (hnames : members.map Prod.fst = expected.map Prod.fst)
    (hvalues : List.Forall₂ Reorders (members.map Prod.snd) (expected.map Prod.snd)) :
    Reorders (.object members) (ofMembers expected) := by
  rw [ofMembers_eq]
  exact .object hnames hvalues (perm_of_ofMembers hkeys).symm

private theorem exists_of_mem_arranged {items others : List Json}
    (h : List.Forall₂ Reorders items others) :
    ∀ other ∈ others, ∃ item ∈ items, item.Reorders other := by
  induction h with
  | nil => simp
  | @cons item other items others hitem _ ih =>
      rw [List.forall_mem_cons]
      refine ⟨⟨item, by simp, hitem⟩, fun held hheld => ?_⟩
      obtain ⟨source, hsource, hreorders⟩ := ih held hheld
      exact ⟨source, List.mem_cons_of_mem item hsource, hreorders⟩

theorem Textual.of_reorders {json : Json} (htextual : written.Textual)
    (h : written.Reorders json) : json.Textual := by
  induction htextual generalizing json with
  | null =>
      cases h with
      | same => exact .null
  | string value =>
      cases h with
      | same => exact .string value
  | array hitems ih =>
      cases h with
      | same => exact .array hitems
      | array hothers =>
          refine .array fun other hother => ?_
          obtain ⟨item, hitem, hreorders⟩ := exists_of_mem_arranged hothers other hother
          exact ih item hitem hreorders
  | object hmembers ih =>
      cases h with
      | same => exact .object hmembers
      | object _ hvalues hperm =>
          refine .object fun other hother => ?_
          have hvalue := List.mem_map_of_mem (f := Prod.snd) (hperm.mem_iff.mpr hother)
          obtain ⟨value, hheld, hreorders⟩ := exists_of_mem_arranged hvalues other.2 hvalue
          obtain ⟨member, hmember, rfl⟩ := List.mem_map.mp hheld
          exact ih member hmember hreorders

/-! ## Texts -/

/-- The texts of a value, with its members in any order and blanks between any two parts. -/
def WrittenAs (json : Json) (text : String) : Prop :=
  ∃ (written : Json) (before body after : List Char), written.Reorders json ∧ Gap before ∧
    written.Spells body ∧ Gap after ∧ text.toList = before ++ (body ++ after)

theorem Textual.writtenAs_render {json : Json} (htextual : written.Textual)
    (h : written.Reorders json) : json.WrittenAs written.render :=
  ⟨written, [], written.compact, [], h, gap_nil, htextual.spells_compact, gap_nil, by
    simp [render]⟩

theorem Textual.writtenAs_pretty {json : Json} (htextual : written.Textual)
    (h : written.Reorders json) : json.WrittenAs written.pretty :=
  ⟨written, [], written.indented 0, [], h, gap_nil, htextual.spells_indented 0, gap_nil, by
    simp [pretty]⟩

theorem WrittenAs.document {json : Json} {text : String} (h : json.WrittenAs text) :
    ∃ written : Json, written.Reorders json ∧
      Document.ofText text = ⟨.ofJson written, false⟩ := by
  obtain ⟨written, before, body, after, hreorders, hbefore, hbody, hafter, htext⟩ := h
  exact ⟨written, hreorders, Document.ofText_of_spells hbefore hbody hafter htext⟩

end Reshape.Json
