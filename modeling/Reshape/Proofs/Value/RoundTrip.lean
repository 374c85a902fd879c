import Reshape.Proofs.Value.ReadBack

/-!
# Values that reading gives back unchanged

A plain value holds finite numbers and years of four digits only, so that JSON has a
text for all of it.  It is read back unchanged unless an option of its type stands
directly around JSON: there `null` stands for an absent value, and is JSON as well.
An option around an option is no such case, since the two share one `null`.
-/

namespace Reshape

/-- Whether no option, at any depth, stands directly around JSON. -/
def FieldType.isUnambiguous : FieldType → Bool
  | .option item => item != .json && item.isUnambiguous
  | .list item => item.isUnambiguous
  | _ => true

namespace Value

mutual

/--
Every floating-point number in the value is finite, and every timestamp lies, in UTC,
in a year from 0 to 9999.
-/
def Plain : Value → Prop
  | .f32 value => ∃ number, value = .finite number
  | .f64 value => ∃ number, value = .finite number
  | .timestamp value => 0 ≤ value.year ∧ value.year ≤ 9999
  | .list items => PlainItems items
  | _ => True

def PlainItems : List Value → Prop
  | [] => True
  | item :: items => Plain item ∧ PlainItems items

end

variable {type : FieldType} {value : Value}

theorem plain_list_iff {items : List Value} :
    Plain (.list items) ↔ ∀ value ∈ items, value.Plain := by
  rw [Plain]
  induction items with
  | nil => simp [PlainItems]
  | cons item items ih => simp [PlainItems, ih]

theorem Plain.legible (hplain : value.Plain) (h : value.HasType type) :
    value.Legible type := by
  induction type generalizing value with
  | option item ih =>
      rcases HasType.option_iff.mp h with rfl | hvalue
      · exact .inl rfl
      · exact .inr (ih hplain hvalue)
  | list item ih =>
      obtain ⟨items, rfl, hitems⟩ := HasType.list_iff.mp h
      rw [plain_list_iff] at hplain
      exact fun value hvalue => ih (hplain value hvalue) (hitems value hvalue)
  | f32 | f64 | timestamp =>
      cases h
      exact hplain
  | bool | int | string | uuid | json =>
      cases h
      trivial

/-- Of the plain values only `null` itself and JSON are rendered as `null`. -/
private theorem Plain.eq_null_of_toJson (hplain : value.Plain) (h : value.HasType type)
    (htype : type.isUnambiguous = true) (hjson : type ≠ .json)
    (hnull : value.toJson = .null) : value = .null := by
  induction h with
  | absent => rfl
  | present _ ih =>
      rw [FieldType.isUnambiguous, Bool.and_eq_true, bne_iff_ne] at htype
      exact ih hplain htype.2 htype.1 hnull
  | json => exact absurd rfl hjson
  | f32 value =>
      obtain ⟨number, rfl⟩ := hplain
      obtain ⟨wide, hwide, -⟩ := toJson_f32_finite number
      rw [hwide] at hnull
      cases hnull
  | f64 value =>
      obtain ⟨number, rfl⟩ := hplain
      cases hnull
  | bool | int | string | uuid | timestamp | list => simp [toJson] at hnull

theorem Plain.settled_eq (hplain : value.Plain) (h : value.HasType type)
    (htype : type.isUnambiguous = true) : settled type value = value := by
  induction type generalizing value with
  | option item ih =>
      by_cases hnull : value.toJson = .null
      · rw [settled_option_of_null hnull]
        exact (hplain.eq_null_of_toJson h htype (by simp) hnull).symm
      · rw [settled_option_of_ne_null hnull]
        rcases HasType.option_iff.mp h with rfl | hvalue
        · exact absurd rfl hnull
        · rw [FieldType.isUnambiguous, Bool.and_eq_true] at htype
          exact ih hplain hvalue htype.2
  | list item ih =>
      obtain ⟨items, rfl, hitems⟩ := HasType.list_iff.mp h
      rw [plain_list_iff] at hplain
      have hsettled : ∀ value ∈ items, settled item value = value := fun value hvalue =>
        ih (hplain value hvalue) (hitems value hvalue) htype
      rw [settled, List.map_congr_left hsettled, List.map_id']
  | bool | int | f32 | f64 | string | uuid | timestamp | json => rfl

end Value

end Reshape
