import Mathlib.Data.List.Nodup
import Reshape.Json.Basic

/-!
# Members of an object

Adding a member changes what is found under its key and under no other.  Hence an
object holds each of the members that it was made of if their keys are distinct.
-/

namespace Reshape.Json

variable {α : Type}

private theorem lookup_insertMember_self (key : String) (value : α) (members : List (String × α)) :
    (insertMember key value members).lookup key = some value := by
  induction members with
  | nil => simp [insertMember]
  | cons member members ih =>
      obtain ⟨otherKey, other⟩ := member
      simp only [insertMember]
      split
      · simp
      · split
        · simp
        · rename_i hne
          rw [List.lookup_cons, beq_false_of_ne hne]
          exact ih

private theorem lookup_insertMember_of_ne {key otherKey : String} (h : otherKey ≠ key) (value : α)
    (members : List (String × α)) :
    (insertMember key value members).lookup otherKey = members.lookup otherKey := by
  have hmember : ∀ members : List (String × α),
      ((key, value) :: members).lookup otherKey = members.lookup otherKey := by
    intro members
    rw [List.lookup_cons, beq_false_of_ne h]
  induction members with
  | nil => exact hmember []
  | cons member members ih =>
      obtain ⟨memberKey, held⟩ := member
      simp only [insertMember]
      split
      · exact hmember _
      · split
        · rename_i heq
          rw [hmember, ← heq, List.lookup_cons, beq_false_of_ne h]
        · rw [List.lookup_cons, List.lookup_cons, ih]

def addMembers (object members : List (String × α)) : List (String × α) :=
  members.foldl (fun object (key, value) => insertMember key value object) object

private theorem lookup_addMembers_of_not_mem {members : List (String × α)} {key : String}
    (h : key ∉ members.map Prod.fst) (object : List (String × α)) :
    (addMembers object members).lookup key = object.lookup key := by
  induction members generalizing object with
  | nil => rfl
  | cons member members ih =>
      rw [List.map_cons, List.mem_cons, not_or] at h
      exact (ih h.2 _).trans (lookup_insertMember_of_ne h.1 _ _)

theorem lookup_addMembers_of_mem {members : List (String × α)}
    (hkeys : (members.map Prod.fst).Nodup) {key : String} {value : α}
    (h : (key, value) ∈ members) (object : List (String × α)) :
    (addMembers object members).lookup key = some value := by
  induction members generalizing object with
  | nil => cases h
  | cons member members ih =>
      rw [List.map_cons, List.nodup_cons] at hkeys
      rcases List.mem_cons.mp h with rfl | hmem
      · exact (lookup_addMembers_of_not_mem hkeys.1 _).trans (lookup_insertMember_self ..)
      · exact ih hkeys.2 hmem _

private theorem perm_insertMember {key : String} {members : List (String × α)}
    (h : key ∉ members.map Prod.fst) (value : α) :
    (insertMember key value members).Perm ((key, value) :: members) := by
  induction members with
  | nil => exact .refl _
  | cons member members ih =>
      obtain ⟨memberKey, held⟩ := member
      rw [List.map_cons, List.mem_cons, not_or] at h
      simp only [insertMember]
      split
      · exact .refl _
      · rw [if_neg h.1]
        exact ((ih h.2).cons _).trans (.swap ..)

/-- Of members with distinct keys none is lost. -/
theorem perm_addMembers {object members : List (String × α)}
    (h : ((object ++ members).map Prod.fst).Nodup) :
    (addMembers object members).Perm (object ++ members) := by
  induction members generalizing object with
  | nil => simp [addMembers]
  | cons member members ih =>
      obtain ⟨key, value⟩ := member
      have hmiddle : (object ++ (key, value) :: members).Perm
          ((key, value) :: (object ++ members)) := List.perm_middle
      have hkeys := (hmiddle.map Prod.fst).nodup_iff.mp h
      have hfresh : key ∉ object.map Prod.fst := by
        rw [List.map_cons, List.nodup_cons, List.map_append, List.mem_append, not_or] at hkeys
        exact hkeys.1.1
      have hinsert := (perm_insertMember hfresh value).append_right members
      have hrest := ih ((hinsert.map Prod.fst).nodup_iff.mpr hkeys)
      exact hrest.trans (hinsert.trans hmiddle.symm)

theorem ofMembers_eq (members : List (String × Json)) :
    ofMembers members = .object (addMembers [] members) := rfl

end Reshape.Json
