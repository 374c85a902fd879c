import Reshape.Proofs.Schema.Lookup

/-!
# Lookups beside an inserted field

A field that does not answer to a name is accepted at no step of a lookup of that name.
Inserted into a schema, it moves the fields behind it by one place and leaves the lookup
what it was.
-/

namespace Reshape

/-! ## Fields that answer to a name -/

/-- The name or an alias of the field differs from `name` in case at most. -/
def Field.AnswersTo (field : Field) (name : String) : Prop :=
  Text.alike field.name name = true ∨
    (∃ shown, field.jsonAlias? = some shown ∧ Text.alike shown name = true) ∨
    ∃ shown, field.dbAlias? = some shown ∧ Text.alike shown name = true

private theorem MatchKind.answersTo_of_accepts {kind : MatchKind} {field : Field} {name : String}
    (h : kind.accepts name field = true) : field.AnswersTo name := by
  cases kind with
  | exact =>
      obtain rfl : field.name = name := by simpa [accepts] using h
      exact .inl ((Text.alike_iff _ _).mpr rfl)
  | caseInsensitive => exact .inl h
  | jsonAlias => exact .inr (.inl ((Option.any_eq_true _ _).mp h))
  | dbAlias => exact .inr (.inr ((Option.any_eq_true _ _).mp h))

/-! ## Places after an insertion -/

/-- The place of what stood at `index` after an insertion at `position`. -/
def shiftIndex (position index : Nat) : Nat := if index < position then index else index + 1

private theorem shiftIndex_succ (position index : Nat) :
    shiftIndex (position + 1) (index + 1) = shiftIndex position index + 1 := by
  unfold shiftIndex
  split <;> split <;> omega

theorem getElem?_insertIdx_shiftIndex {α : Type} (items : List α) (position : Nat)
    (item : α) (index : Nat) :
    (items.insertIdx position item)[shiftIndex position index]? = items[index]? := by
  unfold shiftIndex
  split
  · rename_i hbefore
    exact List.getElem?_insertIdx_of_lt hbefore
  · rename_i hbehind
    rw [List.getElem?_insertIdx_of_gt (by omega), Nat.add_sub_cancel]

def FieldMatch.shift (position : Nat) (found : FieldMatch) : FieldMatch :=
  { found with index := shiftIndex position found.index }

namespace Schema

def insertField (schema : Schema) (position : Nat) (field : Field) : Schema :=
  { schema with fields := schema.fields.insertIdx position field }

private theorem firstAccepted?_insertIdx {kind : MatchKind} {name : String} {added : Field}
    (hadded : kind.accepts name added = false) (position : Nat) (fields : List Field) :
    firstAccepted? kind name (fields.insertIdx position added) =
      (firstAccepted? kind name fields).map fun found =>
        (shiftIndex position found.1, found.2) := by
  induction fields generalizing position with
  | nil => cases position <;> simp [firstAccepted?, hadded]
  | cons field fields ih =>
      cases position with
      | zero =>
          rw [List.insertIdx_zero, firstAccepted?, if_neg (by simp [hadded])]
          rfl
      | succ position =>
          rw [List.insertIdx_succ_cons, firstAccepted?, firstAccepted?, ih]
          split
          · rfl
          · simp only [Option.map_map]
            congr 1
            funext found
            simp only [Function.comp, shiftIndex_succ]

/-- No step has another winner. -/
theorem resolve?_insertField (schema : Schema) {name : String} {added : Field}
    (hadded : ¬added.AnswersTo name) (position : Nat) :
    (schema.insertField position added).resolve? name =
      (schema.resolve? name).map (·.shift position) := by
  have hkind (kind : MatchKind) : kind.accepts name added = false := by
    rw [← Bool.not_eq_true]
    exact fun haccepts => hadded (MatchKind.answersTo_of_accepts haccepts)
  simp only [resolve?, insertField, firstAccepted?_insertIdx (hkind _), List.map_findSome?]
  congr 1
  funext kind
  simp only [Function.comp, Option.map_map]
  rfl

end Schema

end Reshape
