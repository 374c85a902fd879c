import Reshape.Proofs.Value.ReadBack

/-!
# JSON that conforms to a type

Reading succeeds on the JSON that conforms to the type and on no other.  Each part of what
is read has the shape of the part of the JSON that it comes from, and an integer is never
changed.  Reading that fails stops at the first part that does not conform, whose fault is
the error.
-/

namespace Reshape

/-! ## Conformance -/

namespace Json

/-- The JSON that values of a type are read from. -/
def Conforms : FieldType → Json → Prop
  | .json, _ => True
  | .option item, json => json = .null ∨ Conforms item json
  | .list item, .array items => ∀ held ∈ items, Conforms item held
  | .bool, .bool _ => True
  | .string, .string _ => True
  | .f32, .number _ => True
  | .f64, .number _ => True
  | .int type, .number (.integer value _) => type.Holds value
  | .uuid, .string text => ∃ uuid, Uuid.parse text = .ok uuid
  | .timestamp, .string text => ∃ timestamp, Timestamp.parse text = .ok timestamp
  | _, _ => False

end Json

namespace Value

variable {type : FieldType} {json : Json} {value : Value} {error : ValueError}

private theorem exists_ofInt_iff {type : IntType} {number : Int} :
    (∃ value, ofInt type number = .ok value) ↔ type.Holds number := by
  simp [ofInt_eq_ok_iff]

theorem exists_ofJson_iff : (∃ value, ofJson type json = .ok value) ↔ json.Conforms type := by
  -- Only a list and an option are read by reading their item type.
  induction type generalizing json with
  | option item ih =>
      by_cases hnull : json = .null
      · simp [hnull, ofJson, Json.Conforms]
      · rw [ofJson_option_of_ne_null hnull, ih]
        simp [Json.Conforms, hnull]
  | list item ih =>
      cases json with
      | array items =>
          simp only [ofJson, Json.Conforms, Sequence.exists_map_eq_ok_iff,
            Sequence.exists_mapM_eq_ok_iff, ih]
      | null | bool _ | number _ | string _ | object _ => simp [ofJson, Json.Conforms]
  | int type =>
      cases json with
      | number number =>
          cases number with
          | integer number inRange => exact exists_ofInt_iff
          | float _ => simp [ofJson, Json.Conforms]
      | null | bool _ | string _ | array _ | object _ => simp [ofJson, Json.Conforms]
  | uuid =>
      cases json with
      | string text => cases h : Uuid.parse text <;> simp [ofJson, Json.Conforms, h]
      | null | bool _ | number _ | array _ | object _ => simp [ofJson, Json.Conforms]
  | timestamp =>
      cases json with
      | string text => cases h : Timestamp.parse text <;> simp [ofJson, Json.Conforms, h]
      | null | bool _ | number _ | array _ | object _ => simp [ofJson, Json.Conforms]
  | bool | f32 | f64 | string | json => cases json <;> simp [ofJson, Json.Conforms]

/-! ## Shape -/

theorem ofJson_eq_null_iff (h : ofJson type json = .ok value) :
    value = .null ↔ type.isOption = true ∧ json = .null := by
  induction type with
  | option item ih =>
      by_cases hnull : json = .null
      · subst hnull
        cases h
        simp [FieldType.isOption]
      · rw [ofJson_option_of_ne_null hnull] at h
        simp [ih h, hnull]
  | bool | int _ | f32 | f64 | string | uuid | timestamp | json | list _ =>
      have hvalue : value ≠ .null := by
        rintro rfl
        obtain ⟨item, hitem⟩ := (hasType_of_ofJson h).isOption_of_null
        cases hitem
      simp [hvalue, FieldType.isOption]

theorem exists_items_of_ofJson {item : FieldType} (h : ofJson (.list item) json = .ok value) :
    ∃ items values, json = .array items ∧ value = .list values ∧
      List.Forall₂ (fun held value => ofJson item held = .ok value) items values := by
  cases hasForm_of_ofJson h with
  | list _ items =>
      obtain ⟨values, hvalues, rfl⟩ := Sequence.map_eq_ok_iff.mp h
      exact ⟨items, values, rfl, rfl, Sequence.mapM_eq_ok_iff.mp hvalues⟩

private theorem exists_integer_of_ofJson {type : IntType}
    (h : ofJson (.int type) json = .ok value) :
    ∃ number inRange, json = .number (.integer number inRange) ∧
      value.toInt? = some number := by
  cases hasForm_of_ofJson h with
  | int _ number inRange =>
      obtain ⟨_, rfl⟩ := ofInt_eq_ok_iff.mp h
      exact ⟨number, inRange, rfl, rfl⟩

/-- A part of a value, with the part of the JSON that it was read from and the type of both. -/
structure Place where
  type : FieldType
  json : Json
  value : Value

namespace Place

/-- `part` is found in another place by going into present options and items of lists. -/
inductive Occurs (part : Place) : Place → Prop where
  | here : Occurs part part
  | present {item : FieldType} {json : Json} {value : Value} :
      json ≠ .null → Occurs part ⟨item, json, value⟩ → Occurs part ⟨.option item, json, value⟩
  | item {item : FieldType} {held : Json} {value : Value} {items : List Json}
      {values : List Value} (index : Nat) :
      items[index]? = some held → values[index]? = some value →
      Occurs part ⟨item, held, value⟩ → Occurs part ⟨.list item, .array items, .list values⟩

/-- The value is what is read here, of the shape of the JSON and with its integers. -/
structure Faithful (place : Place) : Prop where
  read : ofJson place.type place.json = .ok place.value
  null_iff : place.value = .null ↔ place.type.isOption = true ∧ place.json = .null
  list : ∀ item, place.type = .list item →
    ∃ items values, place.json = .array items ∧ place.value = .list values ∧
      values.length = items.length
  int : ∀ type, place.type = .int type →
    ∃ number inRange, place.json = .number (.integer number inRange) ∧
      place.value.toInt? = some number

theorem faithful_of_read {place : Place} (h : ofJson place.type place.json = .ok place.value) :
    place.Faithful where
  read := h
  null_iff := ofJson_eq_null_iff h
  list item htype := by
    rw [htype] at h
    obtain ⟨items, values, hitems, hvalues, hread⟩ := exists_items_of_ofJson h
    exact ⟨items, values, hitems, hvalues, hread.length_eq.symm⟩
  int type htype := exists_integer_of_ofJson (htype ▸ h)

private theorem Occurs.read {part whole : Place} (hpart : part.Occurs whole)
    (h : ofJson whole.type whole.json = .ok whole.value) :
    ofJson part.type part.json = .ok part.value := by
  induction hpart with
  | here => exact h
  | present hpresent _ ih => exact ih (ofJson_option_of_ne_null hpresent ▸ h)
  | item index hheld hvalue _ ih =>
      obtain ⟨items, values, hitems, hvalues, hread⟩ := exists_items_of_ofJson h
      cases hitems
      cases hvalues
      obtain ⟨hindex, rfl⟩ := List.getElem?_eq_some_iff.mp hheld
      obtain ⟨hindex', rfl⟩ := List.getElem?_eq_some_iff.mp hvalue
      exact ih (hread.get hindex hindex')

end Place

/-! ## Refusal -/

/-- What is wrong with JSON that is refused without a part of it being read. -/
inductive Fault : FieldType → Json → ValueError → Prop where
  | form {type : FieldType} {json : Json} :
      ¬json.HasForm type → Fault type json (.typeMismatch type json.kind)
  | range {type : IntType} {number : Int} {inRange : -2 ^ 63 ≤ number ∧ number < 2 ^ 64} :
      ¬type.Holds number →
      Fault (.int type) (.number (.integer number inRange)) (.outOfRange (.int type) number)
  | uuid {text : String} {cause : UuidError} :
      Uuid.parse text = .error cause → Fault .uuid (.string text) (.badUuid cause)
  | timestamp {text : String} {cause : TimestampError} :
      Timestamp.parse text = .error cause →
      Fault .timestamp (.string text) (.badTimestamp cause)

/-- Reading gets to `part`, to be read as `leaf`, after all that comes before it conforms. -/
inductive Reaches (leaf : FieldType) (part : Json) : FieldType → Json → Prop where
  | here : Reaches leaf part leaf part
  | present {item : FieldType} {json : Json} :
      json ≠ .null → Reaches leaf part item json → Reaches leaf part (.option item) json
  | item {item : FieldType} {before after : List Json} {held : Json} :
      (∀ earlier ∈ before, earlier.Conforms item) → Reaches leaf part item held →
      Reaches leaf part (.list item) (.array (before ++ held :: after))

theorem Fault.ofJson_eq (h : Fault type json error) : ofJson type json = .error error := by
  cases h with
  | form hform => exact ofJson_of_not_hasForm hform
  | range hrange => exact ofInt_eq_error_iff.mpr ⟨hrange, rfl⟩
  | uuid hcause => simp [ofJson, hcause]
  | timestamp hcause => simp [ofJson, hcause]

theorem Fault.not_conforms (h : Fault type json error) : ¬json.Conforms type := by
  intro hconforms
  obtain ⟨value, hvalue⟩ := exists_ofJson_iff.mpr hconforms
  rw [h.ofJson_eq] at hvalue
  cases hvalue

theorem Fault.eq_outOfRange_iff (h : Fault type json error) {expected : FieldType}
    {number : Int} :
    error = .outOfRange expected number ↔
      ∃ int inRange, expected = .int int ∧ type = .int int ∧
        json = .number (.integer number inRange) ∧ ¬int.Holds number := by
  cases h with
  | form hform =>
      constructor
      · intro h
        cases h
      · rintro ⟨int, inRange, -, rfl, rfl, -⟩
        exact absurd (.int int number inRange) hform
  | range hrange =>
      constructor
      · intro h
        cases h
        exact ⟨_, _, rfl, rfl, rfl, hrange⟩
      · rintro ⟨int, inRange, rfl, hint, hnumber, -⟩
        cases hint
        cases hnumber
        rfl
  | uuid | timestamp => simp

/-- The fault of JSON that is not taken apart. -/
private theorem fault_of_ofJson (hoption : ∀ item, type ≠ .option item)
    (hlist : ∀ item items, type = .list item → json ≠ .array items)
    (h : ofJson type json = .error error) : Fault type json error := by
  by_cases hform : json.HasForm type
  · cases hform with
    | option item _ => exact absurd rfl (hoption item)
    | list item items => exact absurd rfl (hlist item items rfl)
    | int _ number inRange =>
        obtain ⟨hrange, rfl⟩ := ofInt_eq_error_iff.mp h
        exact .range hrange
    | uuid text =>
        cases hparse : Uuid.parse text <;> simp only [ofJson, hparse] at h <;> cases h
        exact .uuid hparse
    | timestamp text =>
        cases hparse : Timestamp.parse text <;> simp only [ofJson, hparse] at h <;> cases h
        exact .timestamp hparse
    | bool _ | f32 _ | f64 _ | string _ | json _ => cases h
  · rw [ofJson_of_not_hasForm hform] at h
    cases h
    exact .form hform

theorem Reaches.ofJson_eq {leaf : FieldType} {part : Json} (h : Reaches leaf part type json)
    (hfault : Fault leaf part error) : ofJson type json = .error error := by
  induction h with
  | here => exact hfault.ofJson_eq
  | present hpresent _ ih => rw [ofJson_option_of_ne_null hpresent, ih]
  | item hbefore _ ih =>
      simp only [ofJson, Sequence.map_eq_error_iff, Sequence.mapM_eq_error_iff]
      exact ⟨_, _, _, rfl, fun earlier hearlier =>
        exists_ofJson_iff.mpr (hbefore earlier hearlier), ih⟩

theorem exists_reaches_of_ofJson (h : ofJson type json = .error error) :
    ∃ leaf part, Reaches leaf part type json ∧ Fault leaf part error := by
  induction type generalizing json with
  | option item ih =>
      by_cases hnull : json = .null
      · subst hnull
        cases h
      · rw [ofJson_option_of_ne_null hnull] at h
        obtain ⟨leaf, part, hreaches, hfault⟩ := ih h
        exact ⟨leaf, part, .present hnull hreaches, hfault⟩
  | list item ih =>
      cases json with
      | array items =>
          simp only [ofJson, Sequence.map_eq_error_iff] at h
          obtain ⟨before, held, after, rfl, hbefore, hheld⟩ := Sequence.mapM_eq_error_iff.mp h
          obtain ⟨leaf, part, hreaches, hfault⟩ := ih hheld
          refine ⟨leaf, part, .item (fun earlier hearlier => ?_) hreaches, hfault⟩
          exact exists_ofJson_iff.mp (hbefore earlier hearlier)
      | null | bool _ | number _ | string _ | object _ =>
          exact ⟨_, _, .here, fault_of_ofJson (by simp) (by simp) h⟩
  | bool | int _ | f32 | f64 | string | uuid | timestamp | json =>
      exact ⟨_, _, .here, fault_of_ofJson (by simp) (by simp) h⟩

/-! ## The law of reading -/

theorem ofJson_reads_conforming (type : FieldType) (json : Json) :
    ((∃ value, ofJson type json = .ok value) ↔ json.Conforms type) ∧
    (∀ value, ofJson type json = .ok value →
      ∀ part : Place, part.Occurs ⟨type, json, value⟩ → part.Faithful) ∧
    ∀ error, ofJson type json = .error error ↔
      ∃ leaf part, Reaches leaf part type json ∧ ¬part.Conforms leaf ∧
        Fault leaf part error ∧
        ∀ expected number, error = .outOfRange expected number ↔
          ∃ int inRange, expected = .int int ∧ leaf = .int int ∧
            part = .number (.integer number inRange) ∧ ¬int.Holds number := by
  refine ⟨exists_ofJson_iff, fun value hvalue part hpart => ?_, fun error => ?_⟩
  · exact Place.faithful_of_read (hpart.read hvalue)
  · constructor
    · intro h
      obtain ⟨leaf, part, hreaches, hfault⟩ := exists_reaches_of_ofJson h
      exact ⟨leaf, part, hreaches, hfault.not_conforms, hfault,
        fun _ _ => hfault.eq_outOfRange_iff⟩
    · rintro ⟨leaf, part, hreaches, -, hfault, -⟩
      exact hreaches.ofJson_eq hfault

/-- An absent item and the largest integer, and a list whose second item is out of range. -/
theorem ofJson_reads_conforming_nested :
    let type : FieldType := .list (.option (.int .u64))
    let largest : Json := .number (.integer (2 ^ 64 - 1) (by decide))
    let negative : Json := .number (.integer (-1) (by decide))
    (∃ value, ofJson type (.array [.null, largest]) = .ok value) ∧
      ofJson type (.array [.null, negative, .string "x"]) =
        .error (.outOfRange (.int .u64) (-1)) := by
  intro type largest negative
  obtain ⟨hok, -, -⟩ := ofJson_reads_conforming type (.array [.null, largest])
  obtain ⟨-, -, herror⟩ :=
    ofJson_reads_conforming type (.array [.null, negative, .string "x"])
  constructor
  · have hlargest : largest.Conforms (.option (.int .u64)) :=
      .inr (show IntType.u64.Holds (2 ^ 64 - 1) by decide)
    refine hok.mpr ?_
    rw [Json.Conforms, List.forall_mem_cons, List.forall_mem_singleton]
    exact ⟨.inl rfl, hlargest⟩
  · have hfault : Fault (.int .u64) negative (.outOfRange (.int .u64) (-1)) :=
      .range (by decide)
    have hitem : Reaches (.int .u64) negative (.option (.int .u64)) negative :=
      .present (by simp [negative]) .here
    have hbefore : ∀ earlier ∈ [Json.null], earlier.Conforms (.option (.int .u64)) := by
      rw [List.forall_mem_singleton]
      exact .inl rfl
    exact (herror _).mpr ⟨.int .u64, negative, .item hbefore hitem, hfault.not_conforms,
      hfault, fun _ _ => hfault.eq_outOfRange_iff⟩

end Value

end Reshape
